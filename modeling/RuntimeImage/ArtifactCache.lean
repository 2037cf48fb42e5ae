import RuntimeImage.Policy
import RuntimeImage.Retrieval
import RuntimeImage.FileTree.Change
import RuntimeImage.Digest

/-!
A cache directory of fetched archives, each in a file named by its digest. A verified fetch trusts
what is there only if its digest is right, and stores what it retrieves only if its digest is the
one asked for. An unverified fetch stores whatever it retrieves under the digest that it has.
-/

namespace RuntimeImage

inductive Warning
  | unverifiedFetch (url : String)
  | unverifiedArchive (name : String)
  deriving DecidableEq, Repr

def Warning.message : Warning → String
  | .unverifiedFetch url => "Fetching " ++ url ++ " without checksum verification."
  | .unverifiedArchive name => "Runtime archive " ++ name ++ " will not be verified."

/-- A way to get at the bytes behind a URL, given the files there are. -/
abbrev Retriever := FileTree → String → Retrieval.Result

namespace ArtifactCache

def download (retrieve : Retriever) (tree : FileTree) (url : String) : Except Fault Bytes :=
  match retrieve tree url with
  | .ok content => .ok content
  | .error (.failed failure) => .error (.download url failure)
  | .error (.unwritable reason) => .error (.unwritable reason)

/-- Files are read this many bytes at a time for their digest. -/
def chunkSize : Nat := 0x100000

def digestOf (tree : FileTree) (path : String) : Except Fault String :=
  match tree.read path with
  | .ok content => .ok ((Bytes.chunks chunkSize content).foldl .update Digest.Hasher.start).hex
  | .error fault => .error (.file fault)

def checkCached (tree : FileTree) (artifact : Path) (expected : String) : Except Fault Path :=
  match digestOf tree artifact.render with
  | .error fault => .error fault
  | .ok actual =>
    if actual = expected then .ok artifact
    else .error (.cachedMismatch artifact.render expected actual)

/-- Writes a file beside the artifact first and then moves it into place. A digest has no dot in
it, so the name with the extension added is no other artifact's. -/
def store (tree : FileTree) (artifact : Path) (content : Bytes) : Except Fault Path × FileTree :=
  let draft := (artifact.addExtension ".tmp").render
  match tree.write draft content with
  | .error fault => (.error (.file fault), tree)
  | .ok tree =>
    match tree.replace draft artifact.render with
    | .error fault => (.error (.file fault), tree)
    | .ok tree => (.ok artifact, tree)

def fetchVerified (retrieve : Retriever) (url sha256 : String) (cacheDir : Path)
    (tree : FileTree) : Except Fault Path × FileTree :=
  if sha256 = "" then (.error (.invalid .noDigest), tree)
  else
    match tree.ensureDirectories cacheDir with
    | (.error fault, tree) => (.error (.file fault), tree)
    | (.ok (), tree) =>
      let artifact := cacheDir.join sha256
      match tree.pathExists artifact.render with
      | .error fault => (.error (.file fault), tree)
      | .ok true => (checkCached tree artifact sha256, tree)
      | .ok false =>
        match download retrieve tree url with
        | .error fault => (.error fault, tree)
        | .ok content =>
          let actual := Digest.hex content
          if actual = sha256 then store tree artifact content
          else (.error (.fetchedMismatch url sha256 actual), tree)

def fetchUnverified (retrieve : Retriever) (url : String) (cacheDir : Path) (tree : FileTree) :
    Except Fault Path × FileTree :=
  match tree.ensureDirectories cacheDir with
  | (.error fault, tree) => (.error (.file fault), tree)
  | (.ok (), tree) =>
    match download retrieve tree url with
    | .error fault => (.error fault, tree)
    | .ok content =>
      let artifact := cacheDir.join (Digest.hex content)
      match tree.pathExists artifact.render with
      | .error fault => (.error (.file fault), tree)
      | .ok true => (.ok artifact, tree)
      | .ok false =>
        match tree.write artifact.render content with
        | .error fault => (.error (.file fault), tree)
        | .ok tree => (.ok artifact, tree)

/-- Fetches into the cache and answers the artifact's path. Without a policy digests are checked. -/
def fetch (retrieve : Retriever) (url sha256 : String) (cacheDir : Path) (policy : Option Policy)
    (tree : FileTree) : Except Fault Path × FileTree :=
  match policy with
  | none => fetchVerified retrieve url sha256 cacheDir tree
  | some policy =>
    match policy.checkNetwork "fetch" with
    | .error fault => (.error fault, tree)
    | .ok () =>
      if policy.requireIntegrity then fetchVerified retrieve url sha256 cacheDir tree
      else fetchUnverified retrieve url cacheDir tree

/-- The warnings that a fetch gives, whether it then succeeds or not. -/
def warnings (policy : Option Policy) (url : String) : List Warning :=
  match policy with
  | none => []
  | some policy =>
    match policy.checkNetwork "fetch" with
    | .error _ => []
    | .ok () => if policy.requireIntegrity then [] else [.unverifiedFetch url]

end ArtifactCache

end RuntimeImage
