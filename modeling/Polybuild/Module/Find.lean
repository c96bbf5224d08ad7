import Polybuild.Manifest.Load
import Polybuild.Module.Basic

/-!
# Finding modules on a disk

A directory is a module when its manifest can be loaded. A directory without one, or with one
that has problems, is no module; why does not matter then.

The sources of a module are the files below its source root that have the extension of a source,
in the order of their paths. They are listed by a pattern that starts with the text of the source
root, so an empty source root lists the files of the whole disk.
-/

namespace Polybuild

namespace Disk

/-- The module in a directory. -/
def module? (d : Disk) (dir : Path) : Option Module :=
  if d.isDirectory dir then
    match d.loadModule dir with
    | .ok manifest => Module.ofManifest? dir manifest
    | .error _ => none
  else none

/-- Where the files below a source root are listed, and what stands in front of their names in a
path from the source root. -/
def listed (root : Path) : Path × List Component :=
  if root.text = "" then (⟨"/"⟩, [.root]) else (root, [])

/-- The paths of the sources of a module, from its source root. -/
def sources (d : Disk) (m : Module) : List String :=
  match m.sourceRoot? with
  | none => []
  | some root =>
      let (base, front) := listed root
      match d.directory? base with
      | none => []
      | some l =>
          let files := (d.filesBelow l).map fun names =>
            Module.relativeText (front ++ names.map .name)
          (files.filter isSourceFile).mergeSort fun a b => decide (a ≤ b)

end Disk

end Polybuild
