import Polybuild.Module.Basic
import Polybuild.Text.Octets

/-!
# Names in octets

Manifests, relative paths and extensions are texts. The name of a file is one only on some disks: on
others it is a list of octets, and most lists of octets are the octets of no text. A naming is how
the two get on with each other. `spell` gives the name that a text names, and `told` shows a name as
a text, with marks where it is none. In `plain`, names are texts. In `octets`, the characters of a
path stand for octets.

A path that is put together of a module and a text has the text spelled into it, and whatever is
told of a path is shown. A path that is put together of names only is the same in every naming, so
what the rest of the library says of paths and of disks holds of octets, too. What it says of
modules is said for plain names: there the functions below are those of `Module`.
-/

namespace Polybuild

/-- How texts are names of files, and how names of files are shown. -/
structure Naming where
  spell : String → String
  told : String → String

namespace Naming

/-- A text can be told from its name, slashes are spelled and shown as they are, and no name is
shown as a text of ASCII but that text. -/
structure Lawful (n : Naming) : Prop where
  told_spell : ∀ s, n.told (n.spell s) = s
  split_spell : ∀ s, Text.split '/' (n.spell s) = (Text.split '/' s).map n.spell
  split_told : ∀ s, Text.split '/' (n.told s) = (Text.split '/' s).map n.told
  told_eq_iff : ∀ s t, t.toList.all (fun c => c.toNat < 128) = true → (n.told s = t ↔ s = t)

/-- Names that are texts. -/
def plain : Naming := ⟨id, id⟩

/-- Names that are octets. -/
def octets : Naming := ⟨Text.inOctets, Text.legible⟩

/-- A name that is a text: what it is shown as names it. -/
def IsText (n : Naming) (name : String) : Prop :=
  n.spell (n.told name) = name

instance (n : Naming) (name : String) : Decidable (n.IsText name) :=
  inferInstanceAs (Decidable (n.spell (n.told name) = name))

/-- The text that a name is, if it is one. -/
def text? (n : Naming) (name : String) : Option String :=
  if n.IsText name then some (n.told name) else none

/-- Whether a file has the extension of a source. A path that is no text has none. -/
def isSourceFile (n : Naming) (file : Path) : Bool :=
  (n.text? file.text).any Polybuild.isSourceFile

/-- The source root of a module, if there is one. -/
def sourceRoot? (n : Naming) (m : Module) : Option Path :=
  m.manifest.src.map fun src => (m.path.join (n.spell src)).normalize

/-- The destination root of a language, if the module is translated into it. -/
def destRoot? (n : Naming) (m : Module) (lang : String) : Option Path :=
  (m.manifest.dest.get? lang).map fun dest => (m.path.join (n.spell dest)).normalize

/-- The file at a path below the source root. -/
def sourceFile? (n : Naming) (m : Module) (relative : String) : Option Path :=
  (n.sourceRoot? m).bind fun root => root.beneath? (n.spell relative)

/-- Components as they are shown, with a slash in front of each. -/
def relativeText (n : Naming) (cs : List Component) : String :=
  Text.join "" (cs.map fun c => "/" ++ n.told c.text)

/-- The path of a file from the source root as it is shown, if the file is below it. -/
def relativePath? (n : Naming) (m : Module) (file : Path) : Option String :=
  (n.sourceRoot? m).bind fun root =>
    (root.below? file.normalize).bind fun cs =>
      if cs = [] then none else some (n.relativeText cs)

/-- The translation of the file at a path below the source root. -/
def destFile? (n : Naming) (m : Module) (relative lang : String) : Option Path :=
  (n.destRoot? m lang).bind fun root => root.beneath? (n.spell (rewriteExtension relative lang))

/-! ## Plain names -/

variable {m : Module}

theorem sourceFile?_plain (relative : String) :
    plain.sourceFile? m relative = m.sourceFile? relative := rfl

theorem relativePath?_plain (file : Path) : plain.relativePath? m file = m.relativePath? file := rfl

theorem destFile?_plain (relative lang : String) :
    plain.destFile? m relative lang = m.destFile? relative lang := rfl

theorem isSourceFile_plain (file : Path) :
    plain.isSourceFile file = Polybuild.isSourceFile file.text := by
  simp [isSourceFile, text?, IsText, plain]

end Naming

end Polybuild
