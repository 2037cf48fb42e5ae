/-!
The local package mirror: its address, its two scripts and the settings they are installed with.
-/

namespace RuntimeImage

structure PackageMirror where
  installDir : String
  registryScript : String
  serverScript : String
  gitUserName : String
  gitUserEmail : String
  persistService : Bool
  deriving DecidableEq, Repr

namespace PackageMirror

def host : String := "127.0.0.1"

def hostNumber : Nat := 9999

def address : String := "http://" ++ host ++ ":" ++ toString hostNumber

def origin : String := "https://pkg.julialang.org"

def registryScriptName : String := "registry.jl"

def serverScriptName : String := "server.jl"

def registryText : String := String.intercalate "\n" [
  "# Generates the local package registry read by the mirror server.",
  "using LocalRegistry",
  "",
  "const REGISTRY_DIR = joinpath(@__DIR__, \"registry\")",
  "",
  "if !isdir(REGISTRY_DIR)",
  "    create_registry(",
  "        REGISTRY_DIR,",
  "        \"file://\" * REGISTRY_DIR;",
  "        description = \"Local package mirror registry\",",
  "        push = false,",
  "    )",
  "end",
  ""]

def serverText : String := String.intercalate "\n" [
  "# Serves package metadata and artifacts from a local cache.",
  "using PkgServer",
  "using Sockets",
  "",
  "PkgServer.start(;",
  "    listen_addr = Sockets.InetAddr(ip\"" ++ host ++ "\", " ++ toString hostNumber ++ "),",
  "    storage_root = joinpath(@__DIR__, \"storage\"),",
  "    storage_servers = [\"" ++ origin ++ "\"],",
  ")",
  ""]

def defaultDir : String := "/opt/julia/mirror"

def default : PackageMirror :=
  { installDir := defaultDir, registryScript := registryText, serverScript := serverText,
    gitUserName := "runtimebake", gitUserEmail := "runtimebake@localhost", persistService := false }

def registryScriptPath (m : PackageMirror) : String := m.installDir ++ "/" ++ registryScriptName

def serverScriptPath (m : PackageMirror) : String := m.installDir ++ "/" ++ serverScriptName

def serverLogPath (m : PackageMirror) : String := m.installDir ++ "/server.log"

end PackageMirror

end RuntimeImage
