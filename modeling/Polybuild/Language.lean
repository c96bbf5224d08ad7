import Polybuild.Text.Pieces

/-!
# Languages and kinds of source files

A project is written in one dialect and translated into target languages. `Language.known`
lists the languages whose sources have a fixed extension; other identifiers may be declared,
but then no extension is rewritten for them.

A source file is judged by its extension alone: it is a dialect source, or it is native source
of a target language, and then it may be written for every language with the same extension
unchanged. `rewriteExtension` turns the name of a dialect source into the name of its
translation.
-/

namespace Polybuild

/-- A language with a fixed source extension, written without the dot. -/
structure Language where
  id : String
  extension : String
  deriving DecidableEq, Repr

namespace Language

/-- The identifier of the dialect. -/
def dialect : String := "bay"

/-- The extensions of dialect sources. The first is that of classes, the second that of
interface templates. -/
def dialectExtensions : List String := ["bay", "ui"]

/-- The extension of a class in the dialect. -/
def classExtension : String := "bay"

/-- The language that a bundle collects when it names none. -/
def bundleDefault : String := "es6"

/-- The languages with a fixed source extension. -/
def known : List Language :=
  [⟨dialect, "bay"⟩, ⟨"php", "php"⟩, ⟨"es6", "js"⟩, ⟨"nodejs", "js"⟩]

/-- The known language with an identifier. -/
def find? (id : String) : Option Language :=
  known.find? fun l => l.id == id

/-- The extension of a language's own sources. -/
def extension? (id : String) : Option String :=
  (find? id).map (·.extension)

end Language

/-- What a source file is written in. -/
inductive SourceKind where
  /-- In the dialect, to be parsed and translated. -/
  | dialect
  /-- In a target language already, known by its extension. -/
  | native (extension : String)
  deriving DecidableEq, Repr

namespace SourceKind

/-- Whether a file of this kind is written for a language as it stands. -/
def passesThroughTo (kind : SourceKind) (lang : String) : Bool :=
  match kind with
  | .dialect => false
  | .native extension => Language.extension? lang == some extension

@[simp] theorem passesThroughTo_dialect (lang : String) :
    passesThroughTo .dialect lang = false := rfl

end SourceKind

/-- A path text cut behind the last dot of its last segment: the part up to the dot and the
extension. A segment that only starts with a dot has no extension. -/
def cutExtension? (path : String) : Option (String × String) :=
  let reversed := path.toList.reverse
  let extension := reversed.takeWhile fun c => c ≠ '.' && c ≠ '/'
  match reversed.drop extension.length with
  | '.' :: c :: rest =>
      if c = '/' then none
      else some (String.ofList ('.' :: c :: rest).reverse, String.ofList extension.reverse)
  | _ => none

/-- The extension of the last segment of a path text. -/
def extensionOf? (path : String) : Option String :=
  (cutExtension? path).map (·.2)

/-- The kind of a source file; `none` for the extensions that no source has. -/
def sourceKind? (path : String) : Option SourceKind :=
  (extensionOf? path).bind fun extension =>
    if extension ∈ Language.dialectExtensions then some .dialect
    else if (Language.known.filter fun l => l.id != Language.dialect).any
        fun l => l.extension == extension then
      some (.native extension)
    else none

/-- Whether a path text has the extension of a source file. -/
def isSourceFile (path : String) : Bool :=
  (sourceKind? path).isSome

/-- The name of the translation of a dialect source. Other names, and all names for a language
without a fixed extension, stay as they are. -/
def rewriteExtension (path lang : String) : String :=
  match Language.extension? lang, cutExtension? path with
  | some target, some (stem, extension) =>
      if extension ∈ Language.dialectExtensions then stem ++ target else path
  | _, _ => path

theorem rewriteExtension_of_unknown {lang : String} (h : Language.extension? lang = none)
    (path : String) : rewriteExtension path lang = path := by
  simp [rewriteExtension, h]

end Polybuild
