import Polybuild.Manifest.Problem
import Polybuild.Module.Reference
import Polybuild.Path.Normal
import Polybuild.SourceFilter

/-!
# Modules

A module is a directory with a manifest that names it. It answers where its sources are, where
their translations go, and which files it is willing to compile.

A file of a module is named by its path from the source root, with a slash in front of each
segment. `sourceFile?` leads from such a relative path to the file and refuses to leave the
source root; `relativePath?` leads back. `destFile?` leads to the translation.

The filter is kept beside the manifest that it is made of, and the type says that it is.
-/

namespace Polybuild

/-- A directory with a manifest that names it. -/
structure Module where
  name : String
  path : Path
  manifest : ModuleManifest
  filter : SourceFilter
  named : manifest.name = some name
  nonblank : Text.blank name = false
  normal : ∃ p : Path, path = p.normalize
  filtered : filter = SourceFilter.ofPatterns manifest.allow manifest.exclude

namespace Module

/-- The module of a directory with a manifest, if the manifest gives it a name. -/
def ofManifest? (dir : Path) (manifest : ModuleManifest) : Option Module :=
  match named : manifest.name with
  | none => none
  | some name =>
      if nonblank : Text.blank name = false then
        some
          { name := name
            path := dir.normalize
            manifest := manifest
            filter := SourceFilter.ofPatterns manifest.allow manifest.exclude
            named := named
            nonblank := nonblank
            normal := dir.exists_normalize_eq
            filtered := rfl }
      else none

/-- The source root, if there is one. -/
def sourceRoot? (m : Module) : Option Path :=
  m.manifest.src.map fun src => (m.path.join src).normalize

/-- The destination root of a language, if the module is translated into it. -/
def destRoot? (m : Module) (lang : String) : Option Path :=
  (m.manifest.dest.get? lang).map fun dest => (m.path.join dest).normalize

/-- The file at a path below the source root. -/
def sourceFile? (m : Module) (relative : String) : Option Path :=
  m.sourceRoot?.bind fun root => root.beneath? relative

/-- Components with a slash in front of each. -/
def relativeText (cs : List Component) : String :=
  Text.join "" (cs.map fun c => "/" ++ c.text)

/-- The path of a file from the source root, if it is below it. -/
def relativePath? (m : Module) (file : Path) : Option String :=
  m.sourceRoot?.bind fun root =>
    (root.below? file.normalize).bind fun cs =>
      if cs = [] then none else some (relativeText cs)

/-- Whether a file is in the directory of the module. -/
def containsFile (m : Module) (file : Path) : Bool :=
  m.path.contains file.normalize

/-- The file of a class that is named by the name of the module and, behind a dot, by segments
with dots between them. -/
def classFile? (m : Module) (qualified : String) : Option Path :=
  (Text.afterStart? (m.name ++ ".") qualified).bind fun rest =>
    if rest = "" then none
    else
      m.sourceRoot?.map fun root =>
        let segments := Text.split '.' rest
        let last := segments.getLast?.getD ""
        (segments.dropLast.foldl Path.join root).join (last ++ "." ++ Language.classExtension)

/-- The translation of the file at a path below the source root. -/
def destFile? (m : Module) (relative lang : String) : Option Path :=
  (m.destRoot? lang).bind fun root => root.beneath? (rewriteExtension relative lang)

/-- Whether an entry refers to a group of the module. -/
def hasGroup (m : Module) (entry : String) : Bool :=
  (Reference.groupOf? entry).any fun tag => m.manifest.groups.contains tag

/-- Whether a list of modules and groups has the module in it. -/
def isListed (m : Module) (entries : List String) : Bool :=
  entries.any fun entry => entry == m.name || m.hasGroup entry

/-- Whether the file at a path below the source root may be compiled. -/
def accepts (m : Module) (relative : String) : Bool :=
  m.filter.accepts relative

end Module

end Polybuild
