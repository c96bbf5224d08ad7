import Polybuild.Catalog.Basic
import Polybuild.Requirements.Order

/-!
# Projects

A project is a root directory with a manifest and the catalog of its modules. It answers what
needs more than one module: the order of requirements, what a list of modules and groups refers
to, which bundles a module goes into, and where a bundle is written.
-/

namespace Polybuild

/-- A root directory with its manifest and modules. -/
structure Project where
  root : Path
  manifest : ProjectManifest
  catalog : Catalog
  normal : ∃ p : Path, root = p.normalize

namespace Project

/-- The project of a root directory, a manifest and modules. -/
def ofParts (root : Path) (manifest : ProjectManifest) (catalog : Catalog) : Project :=
  ⟨root.normalize, manifest, catalog, root.exists_normalize_eq⟩

/-- The name of the root directory, by which the project is known. -/
def id (p : Project) : String :=
  p.root.fileName?.getD ""

/-- The languages that sources in the dialect are translated into. -/
def targets (p : Project) : List String :=
  p.manifest.languages.filter (· ≠ Language.dialect)

/-- What the modules of the project require. -/
def requirements (p : Project) : Requirements :=
  Requirements.ofModules p.catalog.modules

/-- The wanted modules in the order of requirements. -/
def order (p : Project) (wanted : List String) : Except Cycle (List String) :=
  p.requirements.order wanted

/-- The names that an entry of a list of modules stands for. -/
def referents (p : Project) (entry : String) : List String :=
  match Reference.ofText entry with
  | .group _ => (p.catalog.withGroup entry).map (·.name)
  | .module name => [name]

/-- The names that a list of modules and groups stands for, each once. -/
def expand (p : Project) (entries : List String) : List String :=
  (entries.flatMap p.referents).foldl Requirements.pushNew []

/-- The modules of a bundle in the order of requirements. -/
def bundleModules (p : Project) (b : Bundle) : Except Cycle (List String) :=
  p.order (p.expand b.modules)

/-- The bundles that a module goes into. -/
def bundlesOf (p : Project) (m : Module) : List Bundle :=
  p.manifest.assets.filter fun b => m.isListed b.modules

/-- Where a bundle is written; nowhere if its destination is blank. Blanks around the
destination do not count, nor do slashes in front of it. -/
def bundlePath? (p : Project) (b : Bundle) : Option Path :=
  let dest := Text.trim b.dest
  if dest = "" then none
  else some (p.root.join (Text.trimStart (· == '/') dest)).normalize

end Project

end Polybuild
