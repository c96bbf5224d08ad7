import Polybuild.Json.Record
import Polybuild.Manifest.Reading
import Polybuild.Manifest.Writing
import Polybuild.Project.Basic

/-!
# Snapshots

A snapshot records a project and its modules in one value, from which the project can be put
together again without a disk. The record of a module holds the fields of its manifest beside
its own.

Since a field beside the own ones may belong to the manifest, all of them are read to the end:
what cannot be read is refused even where the manifest has no such field.
-/

namespace Polybuild

open Json (Value)

/-- A module in a snapshot. -/
structure ModuleRecord where
  /-- Whether the module was there when the snapshot was taken. -/
  existed : Bool
  path : Path
  manifest : ModuleManifest
  deriving Repr

/-- A project and its modules, as they were. -/
structure Snapshot where
  version : UInt32
  root : Path
  manifest : ProjectManifest
  modules : List ModuleRecord
  deriving Repr

namespace ModuleRecord

/-- The record of a module. -/
def ofModule (m : Module) : ModuleRecord := ⟨true, m.path, m.manifest⟩

/-- The module of a record, unless it was not there or has no name. -/
def module? (r : ModuleRecord) : Option Module :=
  if r.existed then Module.ofManifest? r.path r.manifest else none

/-- The value of a record. -/
def toValue (r : ModuleRecord) : Value :=
  .object
    ([("exists", .bool r.existed), ("path", .string r.path.text)] ++ r.manifest.toFields)

/-- How deep lists and objects may stand inside each other in a field of a record. A document
may have one less than 128 levels, and the record stands in three of them. -/
def maxDepth : Nat := 124

/-- Whether a value can be read to its end. -/
def isReadable (v : Value) : Bool :=
  v.readable Json.Numeral.isFinite && v.depth ≤ maxDepth

/-- The record that a value says. -/
def ofValue? (v : Value) : Option ModuleRecord :=
  match v with
  | .object fields => do
      let isOwn (name : String) : Bool := name == "exists" || name == "path"
      let others := fields.filter fun field => !isOwn field.1
      if Value.comesOnce fields "exists" && Value.comesOnce fields "path" &&
          others.all fun field => isReadable field.2 then
        let existed ← (fields.lookup "exists").bind Value.bool?
        let path ← (fields.lookup "path").bind Value.text?
        let manifest ← ModuleManifest.ofValue? .strict (.object others)
        pure ⟨existed, ⟨path⟩, manifest⟩
      else none
  | _ => none

end ModuleRecord

namespace Snapshot

/-- The version of the snapshots that are written. -/
def currentVersion : UInt32 := 1

/-- The snapshot of a project. -/
def capture (p : Project) : Snapshot :=
  ⟨currentVersion, p.root, p.manifest, p.catalog.modules.map ModuleRecord.ofModule⟩

/-- The project of a snapshot. -/
def restore (s : Snapshot) : Project :=
  Project.ofParts s.root s.manifest
    (Catalog.ofModules (s.modules.filterMap ModuleRecord.module?))

/-- The value of a snapshot. -/
def toValue (s : Snapshot) : Value :=
  .object
    [("version", .nat s.version.toNat),
      ("root", .string s.root.text),
      ("config", s.manifest.toValue),
      ("modules", .array (s.modules.map ModuleRecord.toValue))]

/-- The snapshot that a value says. -/
def ofValue? (v : Value) : Option Snapshot :=
  match v.record? .strict ["version", "root", "config", "modules"] with
  | some [some version, some root, some manifest, some modules] => do
      let version ← version.word? .strict
      let root ← root.text?
      let manifest ← ProjectManifest.ofValue? .strict manifest
      let modules ← modules.list? ModuleRecord.ofValue?
      pure ⟨version, ⟨root⟩, manifest, modules⟩
  | _ => none

/-- A snapshot with its paths in a spelling of their own. Two snapshots say the same when these
are written alike. -/
def respelled (s : Snapshot) : Snapshot :=
  let respell (p : Path) : Path := Path.ofComponents p.components
  { s with
    root := respell s.root
    modules := s.modules.map fun r => { r with path := respell r.path } }

end Snapshot

end Polybuild
