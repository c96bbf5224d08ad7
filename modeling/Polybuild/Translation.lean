import Polybuild.Path.Basic
import Polybuild.Text.Keyed
import Polybuild.Text.Pieces
import Polybuild.Text.Quoted

/-!
# Translation of dialect sources

How the dialect is parsed, and how what was parsed is rendered in a target language, is left
open: `α` is what a parser makes of a text. A parser may refuse a text with a `ParseError`, which
may know the line and the column. A translator gives the text in its language and never refuses.

`Translators` keeps one translator for each language.
-/

namespace Polybuild

/-- Why a text cannot be parsed, and where, counted from one. -/
structure ParseError where
  message : String
  line : Option Nat
  column : Option Nat
  deriving DecidableEq, Repr

namespace ParseError

/-- An error at an unknown place. -/
def new (message : String) : ParseError := ⟨message, none, none⟩

/-- An error at a line and a column. -/
def here (line column : Nat) (message : String) : ParseError := ⟨message, some line, some column⟩

/-- The place, as far as it is known, and the message. A column without a line is not told. -/
def text (e : ParseError) : String :=
  match e.line, e.column with
  | none, _ => e.message
  | some line, none => toString line ++ ": " ++ e.message
  | some line, some column => toString line ++ ":" ++ toString column ++ ": " ++ e.message

end ParseError

/-- A parser for the dialect. It is told the path of the text, for its messages. -/
abbrev Parse (α : Type) := String → Path → Except ParseError α

/-- A translator for each of some languages. -/
structure Translators (α : Type) where
  byLanguage : Keyed (α → String)

namespace Translators

variable {α : Type}

/-- No translators. -/
def empty : Translators α := ⟨.empty⟩

/-- The translators with one for a language, in place of the one that it had. -/
def insert (t : Translators α) (lang : String) (translate : α → String) : Translators α :=
  ⟨t.byLanguage.insert lang translate⟩

/-- The translator for a language. -/
def get? (t : Translators α) (lang : String) : Option (α → String) :=
  t.byLanguage.get? lang

/-- The languages that have a translator, in text order. -/
def languages (t : Translators α) : List String :=
  t.byLanguage.keys

/-- The translators for display. -/
def describe (t : Translators α) : String :=
  "TranslatorRegistry \x7b languages: [" ++ Text.join ", " (t.languages.map Text.shown) ++ "] \x7d"

@[simp] theorem get?_empty (lang : String) : (empty : Translators α).get? lang = none := rfl

theorem get?_insert (t : Translators α) (lang : String) (translate : α → String)
    (other : String) :
    (t.insert lang translate).get? other =
      if other = lang then some translate else t.get? other :=
  Keyed.get?_insert t.byLanguage lang translate other

end Translators

end Polybuild
