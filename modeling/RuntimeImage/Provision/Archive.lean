import RuntimeImage.Provision.Workspace
import RuntimeImage.Distribution
import RuntimeImage.Text.Shell

/-!
Installing the runtime: its archive is staged and verified, copied into the graph, unpacked under
the install root, and its binary directory put on `PATH`. With a cache directory the archive is
fetched at once; without one a second graph downloads it when the image is built.
-/

namespace RuntimeImage

namespace Archive

open Provisioning

def stage : String := "runtime"

def operation : String := "install_runtime"

def builderImage : String := "docker.io/curlimages/curl:7.86.0"

/-- A check that fails when the archive's digest is another. -/
def verifyCommand (sha256 archive : String) : String :=
  "echo " ++ Shell.word (sha256 ++ "  " ++ archive) ++ " | sha256sum -c -"

/-- Unpacks an archive without its top-level directory, and removes it. -/
def unpackCommand (archive installRoot : String) : String :=
  Shell.line ["tar", "zxf", archive, "--strip-components", "1", "-C", installRoot] ++ " && " ++
    Shell.line ["rm", archive]

structure Installer where
  distribution : Distribution := .julia
  policy : Policy := {}
  cacheDir : Option Path := none

namespace Installer

def note (step message : String) (extra : List (String × Json.Value) := [])
    (level : String := "info") : Provisioning Unit :=
  record (LogRecord.ofStage stage operation step message extra level)

/-- The archive from the cache: the directory as a source, and the file in it. -/
def stageCached (i : Installer) (retrieve : Retriever) (cacheDir : Path) :
    Provisioning (Graph × String) := do
  let d := i.distribution
  let cached ← fetch retrieve d.url d.sha256 cacheDir (some i.policy)
  if i.policy.requireIntegrity then
    note "verify" "Runtime archive verified in-process."
      [("sha256", .text d.sha256), ("path", .text cached.render)]
  else
    note "verify" "Runtime archive prefetched unverified; checksum disabled by policy."
      [("path", .text cached.render)] "warning"
  return (← ofResult (Graph.localDir cached.parent.render), cached.name)

def downloadGraph (d : Distribution) : Except Fault Graph := do
  (← Graph.image builderImage).run ["curl", "-fsSL", d.url, "-o", d.stagingPath]
    "[internal] downloading runtime binary" .fetch

def verifyGraph (d : Distribution) (staging : Graph) : Except Fault Graph :=
  staging.run ["sh", "-c", verifyCommand d.sha256 d.stagingPath]
    "[internal] verifying checksum of runtime binary" .integrity

/-- A graph that downloads the archive, and the archive's path in it. -/
def stageDownload (i : Installer) : Provisioning (Graph × String) := do
  let d := i.distribution
  let staging ← ofResult (downloadGraph d)
  note "fetch" "Runtime download declared." [("url", .text d.url)]
  if i.policy.requireIntegrity then
    let staging ← ofResult (verifyGraph d staging)
    note "verify" "Checksum verification declared." [("sha256", .text d.sha256)]
    return (staging, d.stagingPath)
  else
    warn [.unverifiedArchive d.archiveName]
    note "verify" "Checksum verification disabled by policy." [] "warning"
    return (staging, d.stagingPath)

def staged (i : Installer) (retrieve : Retriever) : Provisioning (Graph × String) :=
  match i.cacheDir with
  | some cacheDir => i.stageCached retrieve cacheDir
  | none => i.stageDownload

/-- The graph with the archive copied in and unpacked. -/
def unpackInto (d : Distribution) (base staging : Graph) (archive : String) :
    Except Fault Graph := do
  let g ← base.copy staging archive d.stagingPath
    ("[internal] copying " ++ d.archiveName ++ " to /tmp")
  let g ← g.makeDir d.installRoot
    ("[internal] creating " ++ d.installRoot ++ " folder for runtime binary")
  let g ← g.run ["bash", "-c", unpackCommand d.stagingPath d.installRoot]
    ("[internal] unpack runtime archive under " ++ d.installRoot) .extraction
  g.appendPath d.binDir

def install (i : Installer) (retrieve : Retriever) (base : Graph) : Provisioning Graph := do
  let (staging, archive) ← i.staged retrieve
  let g ← ofResult (unpackInto i.distribution base staging archive)
  note "unpack" ("Runtime unpacked under " ++ i.distribution.installRoot ++ ".")
  return g

end Installer

end Archive

end RuntimeImage
