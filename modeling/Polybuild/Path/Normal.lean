import Polybuild.Path.Basic

/-!
# Normal paths

A normal path has one spelling. It has no single dots, and two dots only at its front, where
there is no name that they could take back. `normalize` reads a path from left to right and
keeps what it has so far as a stack with the last component on top: a dot is dropped, two dots
take a name off, everything else is pushed. No file is looked at, so a name may be folded away
that names nothing.

`beneath?` joins a relative path to a directory and refuses the ones that lead out of it or
name the directory itself.
-/

namespace Polybuild

namespace Path

/-- One component pushed on the stack of a normal path. -/
def pushNormal (stack : List Component) (c : Component) : List Component :=
  match c with
  | .here => stack
  | .up =>
      match stack with
      | .name _ :: rest => rest
      | stack => .up :: stack
  | c => c :: stack

/-- The components of the normal path that means `cs`. -/
def normalComponents (cs : List Component) : List Component :=
  (cs.foldl pushNormal []).reverse

/-- The plain spelling of a list of components. -/
def ofComponents : List Component → Path
  | .root :: cs => ⟨"/" ++ Text.join "/" (cs.map Component.text)⟩
  | cs => ⟨Text.join "/" (cs.map Component.text)⟩

/-- The normal path that means the same as `p`, as far as the path alone tells. -/
def normalize (p : Path) : Path :=
  ofComponents (normalComponents p.components)

theorem exists_normalize_eq (p : Path) : ∃ q : Path, p.normalize = q.normalize := ⟨p, rfl⟩

/-- The normal path of `relative` read from `root`, if it lies strictly below `root`. Slashes
at the start of `relative` do not make it absolute. -/
def beneath? (root : Path) (relative : String) : Option Path :=
  let segments := (Text.split '/' relative).filter (· ≠ "")
  let path := (segments.foldl join root).normalize
  if root.contains path && !path.same root then some path else none

end Path

end Polybuild
