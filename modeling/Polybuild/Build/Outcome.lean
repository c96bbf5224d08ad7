import Polybuild.Disk.Fault
import Polybuild.Requirements.Order
import Polybuild.Translation

/-!
# Outcomes of compiling

A request to compile a file ends in files that were written, in nothing for a reason that is no
error, or in an error.
-/

namespace Polybuild

/-- Why nothing was done for a file. -/
inductive SkipReason where
  | noSourceRoot
  | outsideModule
  | excluded
  | unrecognizedExtension
  | notFound
  | noOutputs
  deriving DecidableEq, Repr

namespace SkipReason

/-- The words for a reason. -/
def message : SkipReason → String
  | noSourceRoot => "module has no source root"
  | outsideModule => "outside module source root"
  | excluded => "excluded by module filter"
  | unrecognizedExtension => "unrecognized extension"
  | notFound => "file not found"
  | noOutputs => "no target language produced output"

end SkipReason

/-- What came of a request that did not fail. -/
inductive Outcome where
  /-- The files that were written, in the order of the languages. -/
  | compiled (outputs : List Path)
  | skipped (reason : SkipReason)
  deriving DecidableEq, Repr

namespace Outcome

/-- Whether anything was written. -/
def isCompiled : Outcome → Bool
  | compiled _ => true
  | skipped _ => false

end Outcome

/-- Why a request failed. -/
inductive CompileError where
  | parse (moduleName : String) (file : Path) (error : ParseError)
  | read (file : Path) (fault : Fault)
  | write (file : Path) (fault : Fault)
  | unknownModule (name : String)
  | cycle (cycle : Cycle)
  deriving DecidableEq, Repr

namespace CompileError

/-- The words for an error. -/
def message : CompileError → String
  | parse moduleName file error =>
      "Parse error in '" ++ file.text ++ "' (module '" ++ moduleName ++ "'): " ++ error.text
  | read file fault => "Failed to read '" ++ file.text ++ "': " ++ fault.message
  | write file fault => "Failed to write '" ++ file.text ++ "': " ++ fault.message
  | unknownModule name => "Unknown module '" ++ name ++ "'"
  | cycle c => c.message

end CompileError

end Polybuild
