import Polybuild.Build.Report
import Polybuild.Module.Find
import Polybuild.Project.Basic

/-!
# Compiling

A request to compile a file of a module goes in two steps. `plan` looks at the disk and renders
the file for every language, and nothing is written if it ends in a reason to skip the file or in
an error. Then `writeAll` writes what was rendered, in the order of the languages, and stops at
the first file that cannot be written.

A file in the dialect is parsed once and rendered by the translators; a native file is handed on
unchanged to the languages with the same extension. Languages without a destination or without
a translator are left out.

A build compiles the files of modules one after the other. A file that fails is an entry of the
report and does not stop the build.
-/

namespace Polybuild

/-- What sources are compiled with. -/
structure Compiler (α : Type) where
  project : Project
  parse : Parse α
  translators : Translators α

/-- The content of a source file, ready to be rendered. -/
inductive Content (α : Type) where
  | tree (a : α)
  | raw (text : String) (kind : SourceKind)

/-- What is to be done about a file. -/
inductive Plan where
  | skip (reason : SkipReason)
  | fail (error : CompileError)
  /-- Files to be written with their texts, at least one. -/
  | write (outputs : List (Path × String))
  deriving DecidableEq, Repr

namespace Disk

/-- The disk with texts written into files, in order, and the error of the first one that cannot
be written. -/
def writeAll (d : Disk) : List (Path × String) → Option CompileError × Disk
  | [] => (none, d)
  | (file, text) :: rest =>
      match d.place file text with
      | (some fault, d) => (some (.write file fault), d)
      | (none, d) => d.writeAll rest

@[simp] theorem writeAll_nil (d : Disk) : d.writeAll [] = (none, d) := rfl

end Disk

namespace Compiler

variable {α : Type}

/-- The content of a text of a kind. -/
def content (c : Compiler α) (m : Module) (file : Path) (kind : SourceKind) (text : String) :
    Except CompileError (Content α) :=
  match kind with
  | .dialect =>
      match c.parse text file with
      | .ok a => .ok (.tree a)
      | .error error => .error (.parse m.name file error)
  | .native extension => .ok (.raw text (.native extension))

/-- The text of a content in a language, if it has one. -/
def rendered? (c : Compiler α) (content : Content α) (lang : String) : Option String :=
  match content with
  | .tree a => (c.translators.get? lang).map fun translate => translate a
  | .raw text kind => if kind.passesThroughTo lang then some text else none

/-- The languages that are asked for: one, or all targets of the project. -/
def languages (c : Compiler α) (lang : Option String) : List String :=
  match lang with
  | some lang => [lang]
  | none => c.project.targets

/-- The files that a content is written into, with their texts. -/
def outputs (c : Compiler α) (m : Module) (relative : String) (content : Content α)
    (langs : List String) : List (Path × String) :=
  langs.filterMap fun lang =>
    (m.destFile? relative lang).bind fun file =>
      (c.rendered? content lang).map fun text => (file, text)

/-- What is to be done about a source file whose path is in plain spelling. -/
def planFile (c : Compiler α) (d : Disk) (m : Module) (file : Path) (relative : String)
    (lang : Option String) : Plan :=
  if !m.accepts relative then .skip .excluded
  else
    match sourceKind? relative with
    | none => .skip .unrecognizedExtension
    | some kind =>
        if !d.isFile file then .skip .notFound
        else
          match d.readText file with
          | .error fault => .fail (.read file fault)
          | .ok text =>
              match c.content m file kind text with
              | .error error => .fail error
              | .ok content =>
                  match c.outputs m relative content (c.languages lang) with
                  | [] => .skip .noOutputs
                  | outputs => .write outputs

/-- What is to be done about the file at a path below the source root. The file counts under the
plain spelling of its path, whichever way it was asked for. -/
def plan (c : Compiler α) (d : Disk) (m : Module) (relative : String) (lang : Option String) :
    Plan :=
  match m.sourceRoot? with
  | none => .skip .noSourceRoot
  | some _ =>
      match m.sourceFile? relative with
      | none => .skip .outsideModule
      | some file =>
          match m.relativePath? file with
          | none => .skip .outsideModule
          | some relative => c.planFile d m file relative lang

/-- Compiles the file at a path below the source root of a module, for one language or for all
targets of the project. -/
def compile (c : Compiler α) (d : Disk) (m : Module) (relative : String)
    (lang : Option String) : Except CompileError Outcome × Disk :=
  match c.plan d m relative lang with
  | .skip reason => (.ok (.skipped reason), d)
  | .fail error => (.error error, d)
  | .write outputs =>
      match d.writeAll outputs with
      | (some error, d) => (.error error, d)
      | (none, d) => (.ok (.compiled (outputs.map (·.1))), d)

/-- Compiles a file, in the module that it belongs to. -/
def compileFile (c : Compiler α) (d : Disk) (file : Path) : Except CompileError Outcome × Disk :=
  match c.project.catalog.owner? file with
  | none => (.ok (.skipped .outsideModule), d)
  | some m =>
      match m.relativePath? file with
      | none => (.ok (.skipped .outsideModule), d)
      | some relative => c.compile d m relative none

/-- The status of a file after a request. -/
def status (result : Except CompileError Outcome) : FileStatus :=
  match result with
  | .ok (.compiled outputs) => .compiled outputs
  | .ok (.skipped reason) => .skipped reason
  | .error error => .failed error.message

/-- Compiles files of a module, one after the other. -/
def compileEach (c : Compiler α) (d : Disk) (m : Module) : List String → List FileEntry × Disk
  | [] => ([], d)
  | relative :: rest =>
      let (result, d) := c.compile d m relative none
      let (entries, d) := c.compileEach d m rest
      (⟨m.name, relative, status result⟩ :: entries, d)

/-- Compiles every source of a module. -/
def compileSources (c : Compiler α) (d : Disk) (m : Module) : BuildReport × Disk :=
  let (entries, d) := c.compileEach d m (d.sources m)
  (⟨entries, 0⟩, d)

/-- Compiles every source of the module with a name. -/
def compileModule (c : Compiler α) (d : Disk) (name : String) :
    Except CompileError BuildReport × Disk :=
  match c.project.catalog.get? name with
  | none => (.error (.unknownModule name), d)
  | some m =>
      let (report, d) := c.compileSources d m
      (.ok report, d)

/-- Compiles modules one after the other and merges their reports. -/
def compileModules (c : Compiler α) (d : Disk) (report : BuildReport) :
    List String → Except CompileError BuildReport × Disk
  | [] => (.ok report, d)
  | name :: rest =>
      match c.compileModule d name with
      | (.error error, d) => (.error error, d)
      | (.ok more, d) => c.compileModules d (report.merge more) rest

/-- Compiles every module of the project, in the order of requirements. -/
def compileAll (c : Compiler α) (d : Disk) : Except CompileError BuildReport × Disk :=
  match c.project.order c.project.catalog.names with
  | .error cycle => (.error (.cycle cycle), d)
  | .ok names => c.compileModules d .empty names

end Compiler

end Polybuild
