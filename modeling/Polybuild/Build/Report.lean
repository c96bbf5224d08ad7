import Polybuild.Build.Outcome
import Polybuild.Text.Elapsed

/-!
# Build reports

A report has one entry for every source file that was looked at, in the order of the build.
`modules` tallies the entries by module, in the order in which the modules first come. Its words
are a headline, and below it the tally of each module with its failures.
-/

namespace Polybuild

/-- What came of one source file. -/
inductive FileStatus where
  | compiled (outputs : List Path)
  | skipped (reason : SkipReason)
  | failed (message : String)
  deriving DecidableEq, Repr

namespace FileStatus

/-- The words for a status. -/
def message : FileStatus → String
  | compiled outputs => "compiled (" ++ toString outputs.length ++ " outputs)"
  | skipped reason => "skipped: " ++ reason.message
  | failed message => "failed: " ++ message

end FileStatus

/-- The entry of a source file. -/
structure FileEntry where
  moduleName : String
  /-- The path from the source root. -/
  path : String
  status : FileStatus
  deriving DecidableEq, Repr

namespace FileEntry

/-- The module and the path. -/
def label (e : FileEntry) : String :=
  e.moduleName ++ ":" ++ e.path

/-- The files that were written. -/
def outputs (e : FileEntry) : List Path :=
  match e.status with
  | .compiled outputs => outputs
  | _ => []

/-- The message of a failure. -/
def error? (e : FileEntry) : Option String :=
  match e.status with
  | .failed message => some message
  | _ => none

/-- Whether the file failed. -/
def isFailure (e : FileEntry) : Bool :=
  e.error?.isSome

/-- Whether anything was written. -/
def isCompiled (e : FileEntry) : Bool :=
  match e.status with
  | .compiled _ => true
  | _ => false

/-- Whether there was nothing to do. -/
def isSkipped (e : FileEntry) : Bool :=
  match e.status with
  | .skipped _ => true
  | _ => false

end FileEntry

/-- What came of the files of one module. -/
structure Tally where
  name : String
  compiled : Nat
  skipped : Nat
  /-- The paths that failed, each with its message. -/
  failures : List (String × String)
  deriving DecidableEq, Repr

namespace Tally

/-- The tally of no files. -/
def start (name : String) : Tally := ⟨name, 0, 0, []⟩

/-- The tally with one more file. -/
def record (t : Tally) (e : FileEntry) : Tally :=
  match e.status with
  | .compiled _ => { t with compiled := t.compiled + 1 }
  | .skipped _ => { t with skipped := t.skipped + 1 }
  | .failed message => { t with failures := t.failures ++ [(e.path, message)] }

/-- The counts that are not zero; the first one is always told. -/
def counts (t : Tally) : String :=
  Text.join ", "
    ([toString t.compiled ++ " compiled"] ++
      (if t.skipped > 0 then [toString t.skipped ++ " skipped"] else []) ++
      (if t.failures.isEmpty then [] else [toString t.failures.length ++ " failed"]))

/-- The line of a module and the lines of its failures. -/
def lines (t : Tally) : List String :=
  ("  " ++ t.name ++ ": " ++ t.counts) ::
    t.failures.map fun (path, message) => "    " ++ path ++ ": " ++ message

end Tally

/-- The entries of a build and how long it took, in nanoseconds. -/
structure BuildReport where
  files : List FileEntry
  duration : Nat
  deriving DecidableEq, Repr

namespace BuildReport

/-- The report of no files. -/
def empty : BuildReport := ⟨[], 0⟩

/-- The report with one more entry. -/
def add (r : BuildReport) (e : FileEntry) : BuildReport :=
  { r with files := r.files ++ [e] }

/-- The report with the entries of another one behind its own. -/
def merge (r other : BuildReport) : BuildReport :=
  ⟨r.files ++ other.files, r.duration + other.duration⟩

/-- The tallies with one more entry, at the tally of its module or at the end. -/
def tallyIn (e : FileEntry) : List Tally → List Tally
  | [] => [(Tally.start e.moduleName).record e]
  | t :: rest => if t.name = e.moduleName then t.record e :: rest else t :: tallyIn e rest

/-- The tallies of the modules, in the order in which they first come. -/
def modules (r : BuildReport) : List Tally :=
  r.files.foldl (fun tallies e => tallyIn e tallies) []

/-- How many files were compiled. -/
def compiledCount (r : BuildReport) : Nat :=
  (r.files.filter FileEntry.isCompiled).length

/-- How many files were skipped. -/
def skippedCount (r : BuildReport) : Nat :=
  (r.files.filter FileEntry.isSkipped).length

/-- The entries that failed. -/
def failures (r : BuildReport) : List FileEntry :=
  r.files.filter FileEntry.isFailure

/-- How many files failed. -/
def failedCount (r : BuildReport) : Nat :=
  r.failures.length

/-- Whether no file failed. -/
def isSuccess (r : BuildReport) : Bool :=
  r.failedCount == 0

/-- All files that were written. -/
def outputs (r : BuildReport) : List Path :=
  r.files.flatMap FileEntry.outputs

/-- The first line of the words for a report, without the time. -/
def headline (r : BuildReport) : String :=
  (if r.isSuccess then "Build succeeded" else "Build failed") ++ ": " ++
    toString r.modules.length ++ " modules, " ++ toString r.files.length ++ " files"

/-- The words for a report without the time. -/
def untimedSummary (r : BuildReport) : String :=
  Text.join "\n" (r.headline :: r.modules.flatMap Tally.lines)

/-- The words for a report. -/
def summary (r : BuildReport) : String :=
  Text.join "\n"
    ((r.headline ++ " in " ++ Text.elapsed r.duration) :: r.modules.flatMap Tally.lines)

end BuildReport

end Polybuild
