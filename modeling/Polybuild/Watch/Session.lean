import Polybuild.Watch.Tracker

/-!
# Watching a project

A session may start with a build of the whole project. After that it is told of changes in
batches of paths, compiles the source files among them in the order of their paths, and says what
came of it. It tracks the files that fail and says when one is fixed. A batch without source files
passes in silence; one whose source files belong to no module ends with its verdict like any other.

The lines that a session says have a level; their times are left to whoever shows them.
-/

namespace Polybuild

/-- How important a line is. -/
inductive Level where
  | info
  | warn
  | debug
  deriving DecidableEq, Repr

/-- A line that a session says. -/
structure Line where
  level : Level
  text : String
  deriving DecidableEq, Repr

/-- How a project is watched. -/
structure WatchOptions where
  root : Path
  settings : WatchSettings
  initialBuild : Bool
  deriving DecidableEq, Repr

namespace WatchOptions

/-- The options that a project asks for. -/
def ofProject (p : Project) : WatchOptions :=
  ⟨p.root, p.manifest.watch, true⟩

/-- How long changes are gathered, in milliseconds; not less than one. -/
def delay (o : WatchOptions) : Nat :=
  max o.settings.debounce.toNat 1

end WatchOptions

/-- Why a watch cannot start. -/
inductive WatchError where
  | rootNotFound (root : Path)
  deriving DecidableEq, Repr

namespace WatchError

/-- The words for an error. -/
def message : WatchError → String
  | rootNotFound root => "Project root not found: " ++ root.text

end WatchError

/-- What a session has said, what it tracks, and the disk. -/
structure Session where
  lines : List Line
  tracker : FailureTracker
  disk : Disk

namespace Session

/-- Says one more line. -/
def say (s : Session) (level : Level) (text : String) : Session :=
  { s with lines := s.lines ++ [⟨level, text⟩] }

/-- The files that failed in a build of the whole project. -/
def failedFiles (p : Project) (r : BuildReport) : List Path :=
  r.failures.filterMap fun e =>
    (p.catalog.get? e.moduleName).bind fun m => m.sourceFile? e.path

/-- Builds the whole project. -/
def build {α : Type} (c : Compiler α) (s : Session) : Session :=
  let (result, disk) := c.compileAll s.disk
  let s := { s with disk := disk }
  let s :=
    match result with
    | .ok report =>
        let failed := (failedFiles c.project report).map fun file => (file, true)
        { s with tracker := (s.tracker.update failed).2 }.say .info report.untimedSummary
    | .error error => s.say .warn ("Build failed: " ++ error.message)
  let (result, disk) := s.disk.buildAllBundles c.project
  let s := { s with disk := disk }
  let s :=
    match result with
    | .ok _ => s
    | .error error => s.say .warn ("Asset build failed: " ++ error.message)
  s.say .info "Initial build finished"

/-- Starts to watch a project on a disk. -/
def start {α : Type} (c : Compiler α) (o : WatchOptions) (d : Disk) : Except WatchError Session :=
  if d.isDirectory o.root then
    let s : Session := ⟨[], .empty, d⟩
    let s := if o.initialBuild then s.build c else s
    .ok (s.say .info ("Watching " ++ o.root.text ++ " for changes..."))
  else .error (.rootNotFound o.root)

/-- The line for the failure of bundles, if they failed. -/
def bundleLines (change : Change) : List Line :=
  change.bundleError.toList.map fun error =>
    ⟨.warn, "Asset update for '" ++ change.moduleName ++ "' failed: " ++ error.message⟩

/-- The lines for a changed file. -/
def changeLines (change : Change) : List Line :=
  let outcome : Line :=
    match change.outcome with
    | .ok (.compiled outputs) =>
        ⟨.info, "Compiled " ++ change.file.text ++ " (" ++ toString outputs.length ++ " outputs)"⟩
    | .ok (.skipped reason) => ⟨.debug, "Skipped " ++ change.file.text ++ ": " ++ reason.message⟩
    | .error message => ⟨.warn, message⟩
  outcome :: change.bundles.map fun path => ⟨.info, "Updated asset " ++ path.text⟩

/-- The last line for a batch, by the number of files that failed. -/
def verdict (failed : Nat) : Line :=
  if failed = 0 then ⟨.info, "Rebuild complete"⟩
  else
    ⟨.warn, "Rebuild failed - " ++ toString failed ++ " error" ++ (if failed = 1 then "" else "s")⟩

/-- The source files among paths, in the order of paths and each once, as it is spelled last. -/
def relevant (paths : List Path) : List Path :=
  let sorted := (paths.filter fun p => isSourceFile p.text).mergeSort Path.le
  sorted.foldr
    (fun p rest =>
      match rest with
      | q :: _ => if p.same q then rest else p :: rest
      | [] => [p])
    []

/-- Handles a batch of changed paths. -/
def handle {α : Type} (c : Compiler α) (s : Session) (paths : List Path) : Session :=
  let files := relevant paths
  let (changes, disk) := c.handleChanges s.disk files
  let (fixed, tracker) := s.tracker.record changes
  let failed := (changes.filter Change.isFailure).length
  let lines :=
    if files.isEmpty then []
    else
      changes.flatMap bundleLines ++
        (fixed.map fun file => ⟨.info, "Fixed: " ++ file.text⟩) ++
        changes.flatMap changeLines ++ [verdict failed]
  ⟨s.lines ++ lines, tracker, disk⟩

end Session

end Polybuild
