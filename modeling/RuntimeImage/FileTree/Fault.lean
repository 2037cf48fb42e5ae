import RuntimeImage.Text.Quoted

/-!
What can go wrong with a path in a file tree, and how it is reported.
-/

namespace RuntimeImage.FileTree

inductive Problem
  | notFound
  | alreadyExists
  | notDirectory
  | isDirectory
  | nameTooLong
  deriving DecidableEq, Repr

def Problem.number : Problem → Nat
  | .notFound => 2
  | .alreadyExists => 17
  | .notDirectory => 20
  | .isDirectory => 21
  | .nameTooLong => 36

def Problem.description : Problem → String
  | .notFound => "No such file or directory"
  | .alreadyExists => "File exists"
  | .notDirectory => "Not a directory"
  | .isDirectory => "Is a directory"
  | .nameTooLong => "File name too long"

inductive Fault
  | nullByte
  | refused (problem : Problem) (path : String)
  deriving DecidableEq, Repr

def Fault.message : Fault → String
  | .nullByte => "embedded null byte"
  | .refused problem path =>
    "[Errno " ++ toString problem.number ++ "] " ++ problem.description ++ ": " ++ Quoted.text path

end RuntimeImage.FileTree
