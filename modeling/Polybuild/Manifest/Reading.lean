import Polybuild.Json.Record
import Polybuild.Manifest.Basic

/-!
# Reading manifests

The records of a manifest, read out of values. A text that may be missing may also be `null`;
no other field may.
-/

namespace Polybuild

open Json (Value ReadRules)

/-- A list of texts. -/
def Json.Value.texts? (v : Value) : Option (List String) :=
  v.list? Value.text?

/-- The declaration of nested modules that a value says. -/
def Declaration.ofValue? (rules : ReadRules) (v : Value) : Option Declaration :=
  match v.record? rules ["src", "type"] with
  | some [some src, kind] => do
      let src ← src.text?
      let kind ← Value.orDefault none (Value.nullable? Value.text?) kind
      pure ⟨src, kind⟩
  | _ => none

/-- The names of the fields of the manifest of a module. -/
def ModuleManifest.fieldNames : List String :=
  ["name", "src", "dest", "allow", "exclude", "assets", "groups", "require", "modules"]

/-- The manifest of a module that a value says. -/
def ModuleManifest.ofValue? (rules : ReadRules) (v : Value) : Option ModuleManifest :=
  match v.record? rules fieldNames with
  | some [name, src, dest, allow, exclude, assets, groups, require, modules] => do
      let name ← Value.orDefault none (Value.nullable? Value.text?) name
      let src ← Value.orDefault none (Value.nullable? Value.text?) src
      let dest ← Value.orDefault .empty (Value.table? Value.text?) dest
      let allow ← Value.orDefault [] Value.texts? allow
      let exclude ← Value.orDefault [] Value.texts? exclude
      let assets ← Value.orDefault [] Value.texts? assets
      let groups ← Value.orDefault [] Value.texts? groups
      let require ← Value.orDefault [] Value.texts? require
      let modules ← Value.orDefault [] (Value.list? (Declaration.ofValue? rules)) modules
      pure ⟨name, src, dest, allow, exclude, assets, groups, require, modules⟩
  | _ => none

/-- The bundle that a value says. -/
def Bundle.ofValue? (rules : ReadRules) (v : Value) : Option Bundle :=
  match v.record? rules ["dest", "modules", "lang"] with
  | some [some dest, modules, lang] => do
      let dest ← dest.text?
      let modules ← Value.orDefault [] Value.texts? modules
      let lang ← Value.orDefault none (Value.nullable? Value.text?) lang
      pure ⟨dest, modules, lang⟩
  | _ => none

/-- The watch settings that a value says. -/
def WatchSettings.ofValue? (rules : ReadRules) (v : Value) : Option WatchSettings :=
  match v.record? rules ["debounce_ms", "clear_screen"] with
  | some [debounce, clearScreen] => do
      let debounce ← Value.orDefault standard.debounce (Value.word? rules) debounce
      let clearScreen ← Value.orDefault standard.clearScreen Value.bool? clearScreen
      pure ⟨debounce, clearScreen⟩
  | _ => none

/-- The names of the fields of the manifest of a project. -/
def ProjectManifest.fieldNames : List String :=
  ["name", "description", "type", "languages", "assets", "modules", "watch"]

/-- The manifest of a project that a value says. -/
def ProjectManifest.ofValue? (rules : ReadRules) (v : Value) : Option ProjectManifest :=
  match v.record? rules fieldNames with
  | some [name, description, kind, languages, assets, modules, watch] => do
      let name ← Value.orDefault "" Value.text? name
      let description ← Value.orDefault "" Value.text? description
      let kind ← Value.orDefault "" Value.text? kind
      let languages ← Value.orDefault [] Value.texts? languages
      let assets ← Value.orDefault [] (Value.list? (Bundle.ofValue? rules)) assets
      let modules ← Value.orDefault [] (Value.list? (Declaration.ofValue? rules)) modules
      let watch ← Value.orDefault .standard (WatchSettings.ofValue? rules) watch
      pure ⟨name, description, kind, languages, assets, modules, watch⟩
  | _ => none

end Polybuild
