import Polybuild.Manifest.Basic
import Polybuild.Text.Blank

/-!
# Problems of manifests

A manifest can be read and still be of no use. The name of a module must be there, must not be
blank and must not look like a reference to a group. In a project a language must not be blank,
a bundle must name a module, a declaration must point somewhere, and changes must be gathered
for some time. A bundle without a destination is no problem: it is switched off.

A problem is a cause; `field` and `message` are the words for it.
-/

namespace Polybuild

/-- What is wrong with a manifest. The numbers count the items of a list from zero. -/
inductive Problem where
  | nameMissing
  | nameBlank
  | nameOfGroup
  | languageBlank (index : Nat)
  | bundleWithoutModules (index : Nat)
  | declarationBlank (index : Nat)
  | debounceZero
  deriving DecidableEq, Repr

namespace Problem

/-- The field that a problem is about. -/
def field : Problem → String
  | nameMissing => "name"
  | nameBlank => "name"
  | nameOfGroup => "name"
  | languageBlank i => "languages[" ++ toString i ++ "]"
  | bundleWithoutModules i => "assets[" ++ toString i ++ "].modules"
  | declarationBlank i => "modules[" ++ toString i ++ "].src"
  | debounceZero => "watch.debounce_ms"

/-- What the field should be. -/
def message : Problem → String
  | nameMissing => "is required"
  | nameBlank => "must be a non-empty string"
  | nameOfGroup => "must not start with '@' (reserved for group references)"
  | languageBlank _ => "must be a non-empty language identifier"
  | bundleWithoutModules _ => "must reference at least one module or group"
  | declarationBlank _ => "must be a non-empty path"
  | debounceZero => "must be a positive integer"

/-- The field and the message. -/
def text (p : Problem) : String :=
  p.field ++ ": " ++ p.message

end Problem

/-- Whether a name is written like a reference to a group. -/
def startsLikeGroup (name : String) : Bool :=
  name.toList.head? == some '@'

/-- The problem with the name of a module, if there is one. -/
def nameProblem? (name : Option String) : Option Problem :=
  match name with
  | none => some .nameMissing
  | some name =>
      if Text.blank name then some .nameBlank
      else if startsLikeGroup name then some .nameOfGroup
      else none

/-- All problems of the manifest of a module. -/
def ModuleManifest.problems (m : ModuleManifest) : List Problem :=
  (nameProblem? m.name).toList

/-- The problems of the items of a list, which `bad` finds and `problem` names. -/
def itemProblems {α : Type} (bad : α → Bool) (problem : Nat → Problem) (items : List α) :
    List Problem :=
  items.zipIdx.filterMap fun (item, i) => if bad item then some (problem i) else none

/-- All problems of the manifest of a project. -/
def ProjectManifest.problems (m : ProjectManifest) : List Problem :=
  itemProblems Text.blank .languageBlank m.languages ++
    itemProblems (fun b : Bundle => b.modules.isEmpty) .bundleWithoutModules m.assets ++
    itemProblems (fun d : Declaration => Text.blank d.src) .declarationBlank m.modules ++
    (if m.watch.debounce = 0 then [.debounceZero] else [])

/-- Whether a manifest has no problem. -/
def ProjectManifest.isValid (m : ProjectManifest) : Bool :=
  m.problems.isEmpty

end Polybuild
