import Polybuild.Disk.Access
import Polybuild.Json.Relaxed
import Polybuild.Manifest.Problem
import Polybuild.Manifest.Reading

/-!
# Loading manifests from a disk

A manifest is a file of a fixed name in the directory of its module or at the root of its
project, written in the relaxed form. A module whose manifest has problems is not loaded; the
problems of a project are left to whoever asks for them.

The manifest of a project is looked for in a directory and then in the directories above it.
-/

namespace Polybuild

/-- The file name of the manifest of a module. -/
def ModuleManifest.fileName : String := "module.json"

/-- The file name of the manifest of a project. -/
def ProjectManifest.fileName : String := "project.json"

/-- Why a manifest is not loaded. -/
inductive LoadError where
  | unreadable (path : Path) (fault : Fault)
  | malformed (path : Path)
  | invalid (path : Path) (problems : List Problem)
  deriving DecidableEq, Repr

namespace LoadError

/-- The file that could not be loaded. -/
def path : LoadError → Path
  | unreadable path _ => path
  | malformed path => path
  | invalid path _ => path

/-- The words for an error. -/
def message : LoadError → String
  | unreadable path fault => "Failed to read '" ++ path.text ++ "': " ++ fault.message
  | malformed path => "Failed to parse '" ++ path.text ++ "'"
  | invalid path problems =>
      "Invalid '" ++ path.text ++ "':\n" ++
        Text.join "\n" (problems.map fun problem => "  - " ++ problem.text)

end LoadError

namespace Disk

/-- What `read` makes of the value that a file says in the relaxed form. -/
def loadRelaxed {α : Type} (d : Disk) (path : Path) (read : Json.Value → Option α) :
    Except LoadError α :=
  match d.readText path with
  | .error fault => .error (.unreadable path fault)
  | .ok text =>
      match (Json.Value.ofText? text).bind read with
      | some a => .ok a
      | none => .error (.malformed path)

/-- The manifest of the module in a directory. -/
def loadModule (d : Disk) (dir : Path) : Except LoadError ModuleManifest :=
  let path := dir.join ModuleManifest.fileName
  (d.loadRelaxed path (ModuleManifest.ofValue? .relaxed)).bind fun manifest =>
    if manifest.problems.isEmpty then .ok manifest
    else .error (.invalid path manifest.problems)

/-- The manifest of a project. -/
def loadProject (d : Disk) (path : Path) : Except LoadError ProjectManifest :=
  d.loadRelaxed path (ProjectManifest.ofValue? .relaxed)

/-- The manifest of a project in a directory, or in the nearest one above it that has one. -/
def findProject? (d : Disk) (start : Path) : Option Path :=
  ((start :: start.above).map fun dir => dir.join ProjectManifest.fileName).find? d.isFile

/-- The manifest of a project in the working directory, or in the nearest one above it. -/
def findProjectHere? (d : Disk) : Option Path :=
  d.findProject? d.workDir.path

end Disk

end Polybuild
