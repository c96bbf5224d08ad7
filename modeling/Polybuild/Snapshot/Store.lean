import Polybuild.Disk.Access
import Polybuild.Json.Printer
import Polybuild.Json.Strict
import Polybuild.Snapshot.Basic

/-!
# Snapshots on a disk

A snapshot is saved in the strict form with two blanks for each level, in a directory that is
made when it is missing. A snapshot that is not there is no fault of loading; one of another
version is.
-/

namespace Polybuild

/-- Why a snapshot is not saved or loaded. -/
inductive SnapshotError where
  | access (fault : Fault)
  | malformed
  | versionMismatch (found : UInt32)
  deriving DecidableEq, Repr

namespace SnapshotError

/-- The words for an error. -/
def message : SnapshotError → String
  | access cause => "IO error: " ++ cause.message
  | malformed => "JSON error"
  | versionMismatch found =>
      "Snapshot version mismatch: expected " ++ toString Snapshot.currentVersion.toNat ++
        ", found " ++ toString found.toNat

end SnapshotError

namespace Disk

/-- The snapshot in a file; none if there is no such file. -/
def loadSnapshot (d : Disk) (path : Path) : Except SnapshotError (Option Snapshot) :=
  if d.holds path then
    match (d.read path).toOption.bind fun bytes =>
        (Json.Value.ofBytes? bytes).bind Snapshot.ofValue? with
    | none => .error .malformed
    | some s =>
        if s.version = Snapshot.currentVersion then .ok (some s)
        else .error (.versionMismatch s.version)
  else .ok none

/-- The disk with a snapshot in a file, and the error if it cannot be written. -/
def saveSnapshot (d : Disk) (path : Path) (s : Snapshot) : Option SnapshotError × Disk :=
  let (fault, d) := d.place path s.toValue.pretty
  (fault.map SnapshotError.access, d)

end Disk

end Polybuild
