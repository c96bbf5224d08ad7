import Polybuild.Disk.Access
import Polybuild.Project.Basic

/-!
# Bundling assets

A bundle is one file with the assets of its modules, in the order of requirements and within a
module as they are listed, each with a line end behind it. The text of an asset is its
translation, if there is one on the disk, or else the source itself, if it is native and may be
handed on to the language of the bundle. Assets without a text are left out.
-/

namespace Polybuild

/-- Why a bundle is not written. -/
inductive BundleError where
  | write (path : Path) (fault : Fault)
  | cycle (cycle : Cycle)
  deriving DecidableEq, Repr

namespace BundleError

/-- The words for an error. -/
def message : BundleError → String
  | write path fault => "Failed to write asset '" ++ path.text ++ "': " ++ fault.message
  | cycle c => c.message

end BundleError

namespace Disk

/-- The text of a file that may not be there. -/
def textOf? (d : Disk) (file : Path) : Option String :=
  if d.isFile file then (d.readText file).toOption else none

/-- Whether the source of an asset may be handed on to a language. -/
def isHandedOn (asset lang : String) : Bool :=
  (sourceKind? asset).any fun kind => kind.passesThroughTo lang

/-- The text of an asset of a module in a language. -/
def assetText? (d : Disk) (m : Module) (asset lang : String) : Option String :=
  match (m.destFile? asset lang).bind d.textOf? with
  | some text => some text
  | none => if isHandedOn asset lang then (m.sourceFile? asset).bind d.textOf? else none

/-- The assets of a module in a language, each with a line end behind it. -/
def moduleAssets (d : Disk) (m : Module) (lang : String) : String :=
  Text.join "" ((m.manifest.assets.filterMap fun asset => d.assetText? m asset lang).map (· ++ "\n"))

/-- The assets of modules in a language. Names of no module are passed over. -/
def bundleText (d : Disk) (p : Project) (names : List String) (lang : String) : String :=
  Text.join "" ((names.filterMap p.catalog.get?).map fun m => d.moduleAssets m lang)

/-- Builds one bundle and gives the file that was written, if the bundle has a destination. -/
def buildBundle (d : Disk) (p : Project) (b : Bundle) : Except BundleError (Option Path) × Disk :=
  match p.bundlePath? b with
  | none => (.ok none, d)
  | some path =>
      match p.bundleModules b with
      | .error cycle => (.error (.cycle cycle), d)
      | .ok names =>
          match d.place path (d.bundleText p names b.language) with
          | (some fault, d) => (.error (.write path fault), d)
          | (none, d) => (.ok (some path), d)

/-- Builds bundles one after the other, up to the first one that fails, and gives the files that
were written. -/
def buildBundles (d : Disk) (p : Project) : List Bundle → Except BundleError (List Path) × Disk
  | [] => (.ok [], d)
  | b :: rest =>
      match d.buildBundle p b with
      | (.error error, d) => (.error error, d)
      | (.ok path, d) =>
          let (paths, d) := d.buildBundles p rest
          (paths.map (path.toList ++ ·), d)

/-- Builds the bundles that a module goes into. -/
def refreshBundles (d : Disk) (p : Project) (m : Module) : Except BundleError (List Path) × Disk :=
  d.buildBundles p (p.bundlesOf m)

/-- Builds all bundles of a project. -/
def buildAllBundles (d : Disk) (p : Project) : Except BundleError (List Path) × Disk :=
  d.buildBundles p p.manifest.assets

end Disk

end Polybuild
