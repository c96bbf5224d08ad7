import Polybuild.Language
import Polybuild.Text.Keyed

/-!
# Manifests

A module is described by a manifest in its directory, and so is a project. All fields have a
default but for those of the smaller records inside, which must say where they point to.

A declaration points to a module, or to a folder with a module in every directory. A bundle
names the file that the assets of some modules are collected into.
-/

namespace Polybuild

/-- The declaration of nested modules. -/
structure Declaration where
  /-- The path from the declaring directory. -/
  src : String
  /-- The kind of the declaration; only one kind has a meaning of its own. -/
  kind : Option String
  deriving DecidableEq, Repr

namespace Declaration

/-- The kind of a folder of modules. -/
def folderKind : String := "folder"

/-- The declaration of one module. -/
def module (src : String) : Declaration := ⟨src, none⟩

/-- The declaration of a folder of modules. -/
def folder (src : String) : Declaration := ⟨src, some folderKind⟩

/-- Whether a declaration points to a folder of modules. -/
def isFolder (d : Declaration) : Bool :=
  d.kind == some folderKind

@[simp] theorem isFolder_module (src : String) : (module src).isFolder = false := rfl

@[simp] theorem isFolder_folder (src : String) : (folder src).isFolder = true := by
  simp [folder, isFolder]

end Declaration

/-- The manifest of a module. -/
structure ModuleManifest where
  name : Option String
  /-- The source root, from the directory of the module. -/
  src : Option String
  /-- The destination root of each target language, from the directory of the module. -/
  dest : Keyed String
  allow : List String
  exclude : List String
  /-- The files that go into bundles, from the source root. -/
  assets : List String
  groups : List String
  /-- The modules and groups that the module requires. -/
  require : List String
  modules : List Declaration
  deriving Repr

namespace ModuleManifest

/-- The manifest that says nothing. -/
def empty : ModuleManifest := ⟨none, none, .empty, [], [], [], [], [], []⟩

end ModuleManifest

/-- A file that the assets of some modules are collected into. -/
structure Bundle where
  /-- The file, from the root of the project. -/
  dest : String
  /-- The modules and groups whose assets are collected. -/
  modules : List String
  lang : Option String
  deriving DecidableEq, Repr

namespace Bundle

/-- The language whose files are collected. -/
def language (b : Bundle) : String :=
  b.lang.getD Language.bundleDefault

end Bundle

/-- How changes are watched. -/
structure WatchSettings where
  /-- How long changes are gathered, in milliseconds. -/
  debounce : UInt32
  clearScreen : Bool
  deriving DecidableEq, Repr

namespace WatchSettings

/-- The settings of a project that says nothing about them. -/
def standard : WatchSettings := ⟨100, false⟩

end WatchSettings

/-- The manifest of a project. -/
structure ProjectManifest where
  name : String
  description : String
  kind : String
  /-- The languages of the project, in the order they are built in. -/
  languages : List String
  assets : List Bundle
  modules : List Declaration
  watch : WatchSettings
  deriving Repr

namespace ProjectManifest

/-- The manifest that says nothing. -/
def empty : ProjectManifest := ⟨"", "", "", [], [], [], .standard⟩

end ProjectManifest

end Polybuild
