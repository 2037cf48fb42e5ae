import RuntimeImage.Json.Printer

/-!
What the image finalizer is told: variables to export, directories to make writable, services to
run. Each kind has its own rule for what is recorded twice: the last value of a variable, the first
mention of a directory, the first service of a name.
-/

namespace RuntimeImage

structure Service where
  name : String
  command : List String := []
  restart : String := "on-failure"
  after : List String := []
  deriving DecidableEq, Repr

structure Finalizer where
  exports : Table String := []
  writable : List String := []
  services : List Service := []
  deriving DecidableEq, Repr

namespace Finalizer

open Json

def exportVariable (f : Finalizer) (key value : String) : Finalizer :=
  { f with exports := f.exports.put key value }

def addWritable (f : Finalizer) (path : String) : Finalizer :=
  if path ∈ f.writable then f else { f with writable := f.writable ++ [path] }

def addService (f : Finalizer) (service : Service) : Finalizer :=
  if f.services.any (fun s => s.name = service.name) then f
  else { f with services := f.services ++ [service] }

def textList (ss : List String) : Value := .list (ss.map .text)

def textObject (t : Table String) : Value := .object (t.map (fun e => (e.1, .text e.2)))

def serviceValue (s : Service) : Value :=
  .object [("after", textList s.after), ("exec", textList s.command), ("name", .text s.name),
    ("restart", .text s.restart)]

def value (f : Finalizer) : Value :=
  .object [
    ("environment_exports", textObject f.exports.sorted),
    ("services", .list (f.services.map serviceValue)),
    ("writable_directories", textList f.writable)]

def text (f : Finalizer) : String := f.value.lines ++ "\n"

end Finalizer

end RuntimeImage
