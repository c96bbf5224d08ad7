import Polybuild.Json.Value
import Polybuild.Manifest.Basic

/-!
# Writing manifests

The values that say manifests. All fields are written, but for texts that are missing.
-/

namespace Polybuild

open Json (Value)

/-- A field with a text that may be missing. -/
def textField (name : String) (s : Option String) : List (String × Value) :=
  s.toList.map fun s => (name, .string s)

@[simp] theorem textField_none (name : String) : textField name none = [] := rfl

@[simp] theorem textField_some (name s : String) :
    textField name (some s) = [(name, .string s)] := rfl

/-- The value of a declaration. -/
def Declaration.toValue (d : Declaration) : Value :=
  .object (("src", .string d.src) :: textField "type" d.kind)

/-- The fields of the manifest of a module. -/
def ModuleManifest.toFields (m : ModuleManifest) : List (String × Value) :=
  textField "name" m.name ++ textField "src" m.src ++
    [("dest", .object (m.dest.entries.map fun entry => (entry.1, .string entry.2))),
      ("allow", .strings m.allow),
      ("exclude", .strings m.exclude),
      ("assets", .strings m.assets),
      ("groups", .strings m.groups),
      ("require", .strings m.require),
      ("modules", .array (m.modules.map Declaration.toValue))]

/-- The value of the manifest of a module. -/
def ModuleManifest.toValue (m : ModuleManifest) : Value :=
  .object m.toFields

/-- The value of a bundle. -/
def Bundle.toValue (b : Bundle) : Value :=
  .object ([("dest", .string b.dest), ("modules", .strings b.modules)] ++ textField "lang" b.lang)

/-- The value of watch settings. -/
def WatchSettings.toValue (s : WatchSettings) : Value :=
  .object [("debounce_ms", .nat s.debounce.toNat), ("clear_screen", .bool s.clearScreen)]

/-- The value of the manifest of a project. -/
def ProjectManifest.toValue (m : ProjectManifest) : Value :=
  .object
    [("name", .string m.name),
      ("description", .string m.description),
      ("type", .string m.kind),
      ("languages", .strings m.languages),
      ("assets", .array (m.assets.map Bundle.toValue)),
      ("modules", .array (m.modules.map Declaration.toValue)),
      ("watch", m.watch.toValue)]

end Polybuild
