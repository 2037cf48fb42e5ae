import RuntimeImage.ArtifactCache
import RuntimeImage.Log
import RuntimeImage.Graph.Basic

/-!
Provisioning steps. A step works on what the finalizer is told, the log, the files and the warnings
given; what it changed before a fault stays changed.
-/

namespace RuntimeImage

structure Workspace where
  finalizer : Finalizer := {}
  log : Log := []
  files : FileTree := .empty
  warnings : List Warning := []

abbrev Provisioning := ExceptT Fault (StateM Workspace)

namespace Provisioning

variable {α : Type}

def ofResult (result : Except Fault α) : Provisioning α := ExceptT.mk (pure result)

def record (r : LogRecord) : Provisioning Unit := modify fun w => { w with log := w.log ++ [r] }

def warn (ws : List Warning) : Provisioning Unit :=
  modify fun w => { w with warnings := w.warnings ++ ws }

def tell (f : Finalizer → Finalizer) : Provisioning Unit :=
  modify fun w => { w with finalizer := f w.finalizer }

def onFiles (action : FileTree → Except Fault α × FileTree) : Provisioning α := do
  let (result, files) := action (← get).files
  modify fun w => { w with files }
  ofResult result

/-- Fetches an archive into a cache directory, giving the warnings of the policy first. -/
def fetch (retrieve : Retriever) (url sha256 : String) (cacheDir : Path)
    (policy : Option Policy) : Provisioning Path := do
  warn (ArtifactCache.warnings policy url)
  onFiles (ArtifactCache.fetch retrieve url sha256 cacheDir policy)

/-- Sets a variable in the graph and among the exports. -/
def exportEnv (g : Graph) (key value : String) : Provisioning Graph := do
  tell (·.exportVariable key value)
  ofResult (g.addEnv key value)

end Provisioning

end RuntimeImage
