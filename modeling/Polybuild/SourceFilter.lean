import Polybuild.Glob.Match
import Polybuild.Regex.Reader
import Polybuild.Regex.Search
import Polybuild.Text.Blank
import Polybuild.Text.Pieces

/-!
# Source filters

A module says which of its files may be compiled by two lists of patterns. Allow patterns are
globs and are compared with the name of a file; with `!` in front they forbid. All of them are
tried in order and the last one that matches decides. Exclude patterns are regular expressions
and are searched for in the path of the file below the source root; any match excludes it.

A pattern that is blank or that cannot be read is left out, so it has no say. Without allow
patterns every file is allowed, as far as the excluded ones are not concerned.

How globs and expressions are read and what they match is given by a `PatternReading`. A filter is
decided by any of them; `SourceFilter` is the filter of the `standard` one.
-/

namespace Polybuild

/-- How the texts of patterns are read, and what the patterns match. A text may be no pattern. -/
structure PatternReading (γ ρ : Type) where
  /-- The glob that a text writes. -/
  glob? : String → Option γ
  /-- Whether a glob matches a whole file name. -/
  covers : γ → String → Bool
  /-- The expression that a text writes. -/
  expr? : String → Option ρ
  /-- Whether an expression matches somewhere in a path. -/
  finds : ρ → String → Bool

/-- An allow pattern. -/
structure AllowRule (γ : Type) where
  pattern : γ
  negative : Bool
  deriving Repr

/-- The patterns of two lists that can be used. -/
structure PatternFilter (γ ρ : Type) where
  allow : List (AllowRule γ)
  exclude : List ρ
  deriving Repr

namespace PatternFilter

/-- Whether there is an allow pattern that can be used. -/
def hasAllowList {γ ρ : Type} (f : PatternFilter γ ρ) : Bool :=
  !f.allow.isEmpty

end PatternFilter

namespace PatternReading

variable {γ ρ : Type}

/-- The globs and the expressions of this library. -/
def standard : PatternReading Glob.Pattern Regex.Expr where
  glob? := Glob.Pattern.ofText?
  covers := Glob.Pattern.matches
  expr? := Regex.Expr.ofPattern?
  finds := Regex.Expr.foundIn

/-- The rule that an allow pattern writes, without the blanks around it and around what follows
its `!`. -/
def allowRule? (k : PatternReading γ ρ) (raw : String) : Option (AllowRule γ) :=
  let trimmed := Text.trim raw
  let (negative, glob) :=
    match Text.afterStart? "!" trimmed with
    | some rest => (true, Text.trim rest)
    | none => (false, trimmed)
  if glob = "" then none
  else (k.glob? glob).map fun pattern => ⟨pattern, negative⟩

/-- The expression that an exclude pattern writes. The blanks around it count, unless there is
nothing else. -/
def excludeRule? (k : PatternReading γ ρ) (raw : String) : Option ρ :=
  if Text.blank raw then none else k.expr? raw

/-- The filter of two lists of patterns. -/
def filter (k : PatternReading γ ρ) (allow exclude : List String) : PatternFilter γ ρ :=
  ⟨allow.filterMap k.allowRule?, exclude.filterMap k.excludeRule?⟩

/-- Whether the last allow pattern that matches a file name allows it. -/
def allows (k : PatternReading γ ρ) (f : PatternFilter γ ρ) (fileName : String) : Bool :=
  f.allow.foldl
    (fun allowed rule => if k.covers rule.pattern fileName then !rule.negative else allowed) false

/-- Whether an exclude pattern matches a path. None matches the empty path. -/
def excludes (k : PatternReading γ ρ) (f : PatternFilter γ ρ) (path : String) : Bool :=
  path ≠ "" && f.exclude.any fun e => k.finds e path

/-- Whether the file at a path below the source root may be compiled. -/
def accepts (k : PatternReading γ ρ) (f : PatternFilter γ ρ) (path : String) : Bool :=
  !k.excludes f path && (!f.hasAllowList || k.allows f (Text.lastPiece '/' path))

end PatternReading

/-- The patterns of a module that can be used. -/
abbrev SourceFilter := PatternFilter Glob.Pattern Regex.Expr

namespace SourceFilter

/-- The filter of two lists of patterns. -/
def ofPatterns (allow exclude : List String) : SourceFilter :=
  PatternReading.standard.filter allow exclude

/-- Whether the last allow pattern that matches a file name allows it. -/
def allows (f : SourceFilter) (fileName : String) : Bool :=
  PatternReading.standard.allows f fileName

/-- Whether an exclude pattern matches a path. -/
def excludes (f : SourceFilter) (path : String) : Bool :=
  PatternReading.standard.excludes f path

/-- Whether the file at a path below the source root may be compiled. -/
def accepts (f : SourceFilter) (path : String) : Bool :=
  PatternReading.standard.accepts f path

theorem accepts_of_excludes {f : SourceFilter} {path : String} (h : f.excludes path = true) :
    f.accepts path = false := by
  rw [accepts, PatternReading.accepts, ← excludes, h]
  rfl

end SourceFilter

end Polybuild
