import Polybuild.Watch.Change

/-!
# Tracking failures

A tracker keeps the files that failed when they were last compiled, so that it can be told when
one of them is fixed. Files count as the same when their paths mean the same.
-/

namespace Polybuild

/-- The files whose last change failed. -/
structure FailureTracker where
  files : List Path
  deriving DecidableEq, Repr

namespace FailureTracker

/-- No file failed. -/
def empty : FailureTracker := ⟨[]⟩

/-- Whether a file is among those that failed. -/
def tracks (t : FailureTracker) (file : Path) : Bool :=
  t.files.any fun other => other.same file

/-- The tracker with one more file, unless it has it. -/
def add (t : FailureTracker) (file : Path) : FailureTracker :=
  if t.tracks file then t else ⟨t.files ++ [file]⟩

/-- The tracker without a file. -/
def drop (t : FailureTracker) (file : Path) : FailureTracker :=
  ⟨t.files.filter fun other => !other.same file⟩

/-- The tracker after changes, told by file and by whether it failed, and the files that were
fixed by them, in order. -/
def update (t : FailureTracker) : List (Path × Bool) → List Path × FailureTracker
  | [] => ([], t)
  | (file, true) :: rest => (t.add file).update rest
  | (file, false) :: rest =>
      if t.tracks file then
        let (fixed, t) := (t.drop file).update rest
        (file :: fixed, t)
      else t.update rest

/-- The tracker after changes, and the files that were fixed by them. -/
def record (t : FailureTracker) (changes : List Change) : List Path × FailureTracker :=
  t.update (changes.map fun change => (change.file, change.isFailure))

/-- Whether any file is tracked. -/
def hasErrors (t : FailureTracker) : Bool :=
  !t.files.isEmpty

/-- How many files are tracked. -/
def count (t : FailureTracker) : Nat :=
  t.files.length

@[simp] theorem update_nil (t : FailureTracker) : t.update [] = ([], t) := rfl

end FailureTracker

end Polybuild
