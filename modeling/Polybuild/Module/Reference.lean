import Polybuild.Text.Pieces

/-!
# References to modules

A list of modules names each of them, or names a group with `@` in front and so all modules of
that group.
-/

namespace Polybuild

/-- What an entry of a list of modules refers to. -/
inductive Reference where
  | module (name : String)
  | group (tag : String)
  deriving DecidableEq, Repr

namespace Reference

/-- The reference that an entry writes. -/
def ofText (entry : String) : Reference :=
  match Text.afterStart? "@" entry with
  | some tag => group tag
  | none => module entry

/-- The group that an entry refers to, if it refers to one. -/
def groupOf? (entry : String) : Option String :=
  match ofText entry with
  | group tag => some tag
  | module _ => none

end Reference

end Polybuild
