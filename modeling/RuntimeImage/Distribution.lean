import RuntimeImage.Fault
import RuntimeImage.Path

/-!
A distribution of a language runtime: the archive to fetch, its digest, and where it is installed.
-/

namespace RuntimeImage

structure Distribution where
  url : String
  sha256 : String
  archiveName : String
  installRoot : String
  binDir : String
  executableName : String
  deriving DecidableEq, Repr

namespace Distribution

def rootDir : String := "/opt/julia"

def defaultBinDir : String := "/opt/julia/bin"

def downloadUrl : String :=
  "https://julialang-s3.julialang.org/bin/linux/x64/1.8/julia-1.8.3-linux-x86_64.tar.gz"

def archiveDigest : String :=
  "33c3b09356ffaa25d3331c3646b1f2d4b09944e8f93fcb994957801b8bbf58a9"

def defaultArchiveName : String := "julia.tar.gz"

def julia : Distribution :=
  { url := downloadUrl, sha256 := archiveDigest, archiveName := defaultArchiveName,
    installRoot := rootDir, binDir := defaultBinDir, executableName := "julia" }

def urlSchemes : List String := ["file", "http", "https"]

def isLowerHex (c : Char) : Bool := ('0' ≤ c && c ≤ '9') || ('a' ≤ c && c ≤ 'f')

/-- Sixty-four lowercase hexadecimal digits. -/
def isDigest (s : String) : Bool := s.toList.length = 64 && s.toList.all isLowerHex

/-- Accepts a distribution, or names the first field that is refused. -/
def validate (d : Distribution) : Except Fault Distribution :=
  match Url.scheme d.url with
  | .error fault => .error (.url fault)
  | .ok scheme =>
    if scheme ∉ urlSchemes then .error (.invalid (.urlScheme d.url))
    else if !isDigest d.sha256 then .error (.invalid (.digest d.sha256))
    else if d.archiveName = "" ∨ '/' ∈ d.archiveName.toList then
      .error (.invalid (.archiveName d.archiveName))
    else if !Path.isAbsolute d.installRoot then
      .error (.invalid (.relativeRoot "install_root" d.installRoot))
    else if !Path.isAbsolute d.binDir then .error (.invalid (.relativeRoot "bin_dir" d.binDir))
    else .ok d

def executable (d : Distribution) : String := d.binDir ++ "/" ++ d.executableName

/-- Where the archive stands while it is unpacked. -/
def stagingPath (d : Distribution) : String := "/tmp/" ++ d.archiveName

end Distribution

end RuntimeImage
