import Polybuild.Build.Bundling
import Polybuild.Build.Compile

/-!
# Changes to source files

A changed file is compiled in the module that it belongs to, and if anything was written, the
bundles that the module goes into are built again. A file that is below no source root is of no
concern. The failure of a bundle is kept apart from the outcome of the file.
-/

namespace Polybuild

/-- What came of a changed file. -/
structure Change where
  file : Path
  moduleName : String
  /-- The outcome, or the words for the error. -/
  outcome : Except String Outcome
  /-- The bundles that were built; none if one of them failed. -/
  bundles : List Path
  /-- Why the bundles were not built. -/
  bundleError : Option BundleError

namespace Change

/-- Whether the file failed. -/
def isFailure (change : Change) : Bool :=
  match change.outcome with
  | .ok _ => false
  | .error _ => true

end Change

namespace Compiler

variable {α : Type}

/-- The outcome of a request with the words for its error. -/
def wording (result : Except CompileError Outcome) : Except String Outcome :=
  result.mapError CompileError.message

/-- Compiles a changed file and builds the bundles of its module again. -/
def handleChange (c : Compiler α) (d : Disk) (file : Path) : Option Change × Disk :=
  match c.project.catalog.owner? file with
  | none => (none, d)
  | some m =>
      match m.relativePath? file with
      | none => (none, d)
      | some relative =>
          match c.compile d m relative none with
          | (.ok (.compiled outputs), d) =>
              match d.refreshBundles c.project m with
              | (.ok bundles, d) =>
                  (some ⟨file, m.name, .ok (.compiled outputs), bundles, none⟩, d)
              | (.error error, d) =>
                  (some ⟨file, m.name, .ok (.compiled outputs), [], some error⟩, d)
          | (result, d) => (some ⟨file, m.name, wording result, [], none⟩, d)

/-- Handles changed files one after the other. Files of no concern are left out. -/
def handleChanges (c : Compiler α) (d : Disk) : List Path → List Change × Disk
  | [] => ([], d)
  | file :: rest =>
      let (change, d) := c.handleChange d file
      let (changes, d) := c.handleChanges d rest
      (change.toList ++ changes, d)

end Compiler

end Polybuild
