import Polybuild.Catalog.Discover
import Polybuild.Project.Basic

/-!
# Reading projects from a disk

A project is read from the manifest at its root, and its modules are discovered from what the
manifest declares. It can also be looked for from any directory below its root.
-/

namespace Polybuild

/-- Why a project is not read. -/
inductive ReadError where
  /-- There is no manifest of a project in a directory or above it. -/
  | notFound (start : Path)
  | manifest (error : LoadError)
  deriving DecidableEq, Repr

namespace ReadError

/-- The words for an error. -/
def message : ReadError → String
  | notFound start =>
      "No project.json found in '" ++ start.text ++ "' or any parent directory"
  | manifest error => error.message

end ReadError

namespace Disk

/-- The project in a root directory. -/
def readProject (d : Disk) (root : Path) : Except ReadError Project :=
  match d.loadProject (root.join ProjectManifest.fileName) with
  | .error error => .error (.manifest error)
  | .ok manifest => .ok (Project.ofParts root manifest (d.discover root manifest.modules))

/-- The project that a directory belongs to. -/
def projectAt (d : Disk) (start : Path) : Except ReadError Project :=
  match d.findProject? start with
  | none => .error (.notFound start)
  | some path => d.readProject (path.parent?.getD start)

end Disk

end Polybuild
