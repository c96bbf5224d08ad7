import Polybuild.Build.Compile
import Polybuild.Naming.Basic

/-!
# Compiling on any file system

`Compiler` works on a `Disk`, where names are texts, where an access fails by the shape of the tree
alone and where files are found by walking down. Here the same is done on a file system that is
given by what it answers. Reading and writing may fail at any time, names may be octets, and the
files below a directory are found by a pattern, `below`. A pattern is a text. So the source root of a
module is shown before it is searched, and where it is no text another directory is.

Two laws are all that a file system has to obey. Writing into a file takes no file away. What a
pattern finds starts with the directory that the pattern starts with.

The functions go step by step like those of `Compiler`; only paths that are read off texts, told in
messages or searched for go through the naming.
-/

namespace Polybuild

/-- A file system by its answers. The files of a state `s` are asked for by their paths. -/
structure FileSystem (σ : Type) extends Naming where
  isFile : σ → Path → Bool
  readText : σ → Path → Except Fault String
  /-- Writes a text into a file, in a directory that is made first if it is missing. -/
  place : σ → Path → String → Option Fault × σ
  /-- What is found by a pattern: the text of a directory, with its wildcards escaped, and behind it
  a slash, any directories and any name. -/
  below : σ → String → List Path
  lawful : toNaming.Lawful
  isFile_place : ∀ {s : σ} {p : Path}, isFile s p = true →
    ∀ file text, isFile (place s file text).2 p = true
  starts_of_mem_below : ∀ {s : σ} {text : String} {p : Path}, p ∈ below s text →
    ∃ cs, p.components = (⟨spell text⟩ : Path).components ++ cs

/-- An error with the path in it as it is shown. -/
def CompileError.shown (n : Naming) : CompileError → CompileError
  | parse moduleName file error => parse moduleName ⟨n.told file.text⟩ error
  | read file fault => read ⟨n.told file.text⟩ fault
  | write file fault => write ⟨n.told file.text⟩ fault
  | unknownModule name => unknownModule name
  | cycle c => cycle c

namespace FileSystem

variable {σ α : Type} (fs : FileSystem σ)

/-- The paths of the sources of a module, from its source root. -/
def sources (s : σ) (m : Module) : List String :=
  match fs.sourceRoot? m with
  | none => []
  | some root =>
      let files := (fs.below s (fs.told root.text)).filter fun file =>
        fs.isFile s file && fs.isSourceFile file
      (files.filterMap (fs.relativePath? m)).mergeSort fun a b => decide (a ≤ b)

/-- The state with texts written into files, in order, and the error of the first one that cannot be
written. -/
def writeAll (s : σ) : List (Path × String) → Option CompileError × σ
  | [] => (none, s)
  | (file, text) :: rest =>
      match fs.place s file text with
      | (some fault, s) => (some (.write file fault), s)
      | (none, s) => writeAll s rest

/-- The files that a content is written into, with their texts. -/
def outputs (c : Compiler α) (m : Module) (relative : String) (content : Content α)
    (langs : List String) : List (Path × String) :=
  langs.filterMap fun lang =>
    (fs.destFile? m relative lang).bind fun file =>
      (c.rendered? content lang).map fun text => (file, text)

/-- What is to be done about a source file whose path is in plain spelling. -/
def planFile (c : Compiler α) (s : σ) (m : Module) (file : Path) (relative : String)
    (lang : Option String) : Plan :=
  if !m.accepts relative then .skip .excluded
  else
    match sourceKind? relative with
    | none => .skip .unrecognizedExtension
    | some kind =>
        if !fs.isFile s file then .skip .notFound
        else
          match fs.readText s file with
          | .error fault => .fail (.read file fault)
          | .ok text =>
              match c.content m file kind text with
              | .error error => .fail error
              | .ok content =>
                  match fs.outputs c m relative content (c.languages lang) with
                  | [] => .skip .noOutputs
                  | outputs => .write outputs

/-- What is to be done about the file at a path below the source root. -/
def plan (c : Compiler α) (s : σ) (m : Module) (relative : String) (lang : Option String) : Plan :=
  match fs.sourceRoot? m with
  | none => .skip .noSourceRoot
  | some _ =>
      match fs.sourceFile? m relative with
      | none => .skip .outsideModule
      | some file =>
          match fs.relativePath? m file with
          | none => .skip .outsideModule
          | some relative => fs.planFile c s m file relative lang

/-- Compiles the file at a path below the source root of a module, for one language or for all
targets of the project. -/
def compile (c : Compiler α) (s : σ) (m : Module) (relative : String) (lang : Option String) :
    Except CompileError Outcome × σ :=
  match fs.plan c s m relative lang with
  | .skip reason => (.ok (.skipped reason), s)
  | .fail error => (.error error, s)
  | .write outputs =>
      match fs.writeAll s outputs with
      | (some error, s) => (.error error, s)
      | (none, s) => (.ok (.compiled (outputs.map (·.1))), s)

/-- The status of a file after a request, with the error as it is shown. -/
def status (result : Except CompileError Outcome) : FileStatus :=
  Compiler.status (result.mapError (CompileError.shown fs.toNaming))

/-- Compiles files of a module, one after the other. -/
def compileEach (c : Compiler α) (s : σ) (m : Module) : List String → List FileEntry × σ
  | [] => ([], s)
  | relative :: rest =>
      let (result, s) := fs.compile c s m relative none
      let (entries, s) := compileEach c s m rest
      (⟨m.name, relative, fs.status result⟩ :: entries, s)

/-- Compiles every source of the module with a name. -/
def compileModule (c : Compiler α) (s : σ) (name : String) : Except CompileError BuildReport × σ :=
  match c.project.catalog.get? name with
  | none => (.error (.unknownModule name), s)
  | some m =>
      let (entries, s) := fs.compileEach c s m (fs.sources s m)
      (.ok ⟨entries, 0⟩, s)

end FileSystem

end Polybuild
