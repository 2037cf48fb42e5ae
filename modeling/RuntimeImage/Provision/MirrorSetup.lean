import RuntimeImage.Provision.Workspace
import RuntimeImage.Distribution
import RuntimeImage.PackageMirror
import RuntimeImage.Text.Shell

/-!
Setting up the package mirror: git and the mirror's tools are installed, its scripts written, its
registry generated and its server started in the background. The server serves the build alone,
unless the settings ask for a service of the finished image.
-/

namespace RuntimeImage

namespace MirrorSetup

open Provisioning

def stage : String := "mirror"

def operation : String := "configure_mirror"

def serviceName : String := "pkg-mirror"

def toolsCommand : String :=
  "using Pkg; Pkg.add(\"LocalRegistry\"); " ++
    "Pkg.add(url=\"https://github.com/JuliaPackaging/PkgServer.jl\")"

/-- How many commands the setup adds. -/
def commandCount : Nat := 6

/-- Starts the server in the background, its output going to a file. -/
def launchCommand (runtime script log : String) : String :=
  "nohup " ++ Shell.line [runtime, script] ++ " > " ++ Shell.word log ++ " 2>&1 &"

structure Setup where
  distribution : Distribution := .julia
  mirror : PackageMirror := .default

namespace Setup

def note (step message : String) (extra : List (String × Json.Value) := []) : Provisioning Unit :=
  record (LogRecord.ofStage stage operation step message extra)

def addTools (s : Setup) (g : Graph) : Except Fault Graph := do
  let g ← g.run ["bash", "-c",
      "apt-get update && apt-get install -y --no-install-recommends git" ++
        " && rm -rf /var/lib/apt/lists/*"]
    "[internal] installing git for the package mirror"
  let g ← g.run ["git", "config", "--global", "user.name", s.mirror.gitUserName]
    "[internal] setting git user name"
  let g ← g.run ["git", "config", "--global", "user.email", s.mirror.gitUserEmail]
    "[internal] setting git user email"
  g.run [s.distribution.executable, "-e", toolsCommand]
    "[internal] installing registry and mirror tooling"

def addScripts (s : Setup) (g : Graph) : Except Fault Graph := do
  let m := s.mirror
  let g ← g.makeDir m.installDir
    ("[internal] creating " ++ m.installDir ++ " for mirror configuration")
  let g ← g.makeFile m.registryScriptPath m.registryScript
    "[internal] writing registry generator script"
  g.makeFile m.serverScriptPath m.serverScript "[internal] writing mirror server script"

def startServer (s : Setup) (g : Graph) : Except Fault Graph := do
  let m := s.mirror
  let runtime := s.distribution.executable
  let g ← g.run [runtime, m.registryScriptPath] "[internal] generating local package registry"
  g.run ["bash", "-c", launchCommand runtime m.serverScriptPath m.serverLogPath]
    ("[internal] starting package mirror at " ++ PackageMirror.address)

def service (s : Setup) : Service :=
  { name := serviceName, command := [s.distribution.executable, s.mirror.serverScriptPath] }

def configure (s : Setup) (g : Graph) : Provisioning Graph := do
  let g ← ofResult (s.addTools g)
  note "tooling" "Mirror tooling declared."
  let g ← ofResult (s.addScripts g)
  tell (·.addWritable s.mirror.installDir)
  note "configure" "Mirror scripts written." [("dir", .text s.mirror.installDir)]
  let g ← ofResult (s.startServer g)
  if s.mirror.persistService then
    tell (·.addService s.service)
    note "start" "Mirror server recorded as a runtime service."
  else
    note "start" "Mirror server started for build-time caching only."
  return g

end Setup

end MirrorSetup

end RuntimeImage
