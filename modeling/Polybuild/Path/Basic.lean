import Polybuild.Text.Pieces

/-!
# Paths

A path is a text with its own spelling: doubled slashes, a slash at the end and single dots
stay as they were written, because answers and messages show them. What a path means is its
list of `components`, and there the spelling does not count. Two paths are the `same` when
their components are.

A path is cut at its slashes into `parts`, each with the component it stands for, if it stands
for one: the root of an absolute path, a dot that a relative path starts with, two dots, or a
name. All other operations read this list. `above` lists the directories above a path, from
the nearest to the last one, each as the path is spelled up to there.
-/

namespace Polybuild

/-- One step of a path. -/
inductive Component where
  | root
  | here
  | up
  | name (text : String)
  deriving DecidableEq, Repr

namespace Component

/-- The component as it is written. -/
def text : Component → String
  | root => "/"
  | here => "."
  | up => ".."
  | name s => s

/-- The component that a piece between two slashes stands for, if any. -/
def ofPiece? (s : String) : Option Component :=
  if s = "" ∨ s = "." then none
  else if s = ".." then some up
  else some (name s)

/-- The place of a component among the kinds of components. -/
def rank : Component → Nat
  | root => 0
  | here => 1
  | up => 2
  | name _ => 3

/-- The order of components: the root, one dot, two dots, then the names in text order. -/
def le (a b : Component) : Bool :=
  match a, b with
  | name s, name t => decide (s ≤ t)
  | a, b => decide (a.rank ≤ b.rank)

end Component

/-- A path, as it is spelled. -/
structure Path where
  text : String
  deriving DecidableEq, Repr

namespace Path

/-- Whether a path starts at the root. -/
def isAbsolute (p : Path) : Bool :=
  p.text.toList.head? == some '/'

/-- The pieces of a path between its slashes, each with the component it stands for. -/
def parts (p : Path) : List (String × Option Component) :=
  match Text.split '/' p.text with
  | [] => []
  | first :: rest =>
      let start :=
        if first = "" then (if rest.isEmpty then none else some Component.root)
        else if first = "." then some .here
        else Component.ofPiece? first
      (first, start) :: rest.map fun s => (s, Component.ofPiece? s)

/-- What a path means. -/
def components (p : Path) : List Component :=
  p.parts.filterMap (·.2)

/-- Whether two paths mean the same. -/
def same (p q : Path) : Bool :=
  p.components == q.components

/-- A path spelled by the first of its parts, given in reverse. -/
def ofReversedParts (parts : List (String × Option Component)) : Path :=
  match parts with
  | [(_, some .root)] => ⟨"/"⟩
  | parts => ⟨Text.join "/" (parts.reverse.map (·.1))⟩

/-- The paths left when the parts of a reversed list are taken off one by one. -/
def aboveParts : List (String × Option Component) → List Path
  | [] => []
  | (_, none) :: rest => aboveParts rest
  | (_, some .root) :: _ => []
  | (_, some _) :: rest =>
      ofReversedParts (rest.dropWhile fun part => part.2.isNone) :: aboveParts rest

/-- The directories above a path, the nearest first. -/
def above (p : Path) : List Path :=
  aboveParts p.parts.reverse

/-- The directory that a path lies in; the root and the empty path have none. -/
def parent? (p : Path) : Option Path :=
  p.above.head?

/-- The last component, if it is a name. -/
def fileName? (p : Path) : Option String :=
  match p.components.getLast? with
  | some (.name s) => some s
  | _ => none

/-- A path read from the directory `p`: an absolute path stands for itself. -/
def join (p : Path) (text : String) : Path :=
  if (⟨text⟩ : Path).isAbsolute || p.text == "" then ⟨text⟩
  else if p.text.toList.getLast? == some '/' then ⟨p.text ++ text⟩
  else ⟨p.text ++ "/" ++ text⟩

/-- What the second path has behind the first, if it lies at or below it. -/
def below? (root p : Path) : Option (List Component) :=
  if root.components.isPrefixOf p.components then
    some (p.components.drop root.components.length)
  else none

/-- Whether the second path lies at or below the first. -/
def contains (root p : Path) : Bool :=
  root.components.isPrefixOf p.components

/-- The order of paths by their components. -/
def le (p q : Path) : Bool :=
  go p.components q.components
where
  /-- The order of lists of components: the first difference decides. -/
  go : List Component → List Component → Bool
    | [], _ => true
    | _ :: _, [] => false
    | a :: as, b :: bs => if a = b then go as bs else a.le b

end Path

end Polybuild
