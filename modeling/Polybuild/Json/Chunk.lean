/-!
# Chunks of structured text

Before a document is read, its characters are gathered into chunks: marks, quoted texts with
their quotes taken off, and runs of other characters, which are words or numerals. Blanks and
comments stand between chunks and are dropped.

The characters are read one at a time; `Reading` is what has to be remembered in between. A
`Spelling` says which characters are blanks and quotes and whether there are comments, so one
reader serves the strict and the relaxed form of structured text.
-/

namespace Polybuild

namespace Json

/-- What a form of structured text takes for blanks, ends of lines and quotes, and whether it
has comments. -/
structure Spelling where
  isBlank : Char → Bool
  isLineEnd : Char → Bool
  isQuote : Char → Bool
  comments : Bool

/-- A piece of a document. -/
inductive Chunk where
  | mark (c : Char)
  /-- A quoted text, as it is written between its quotes. -/
  | quoted (written : List Char)
  /-- A run of characters that are no blanks, marks or quotes. -/
  | run (written : List Char)
  deriving DecidableEq, Repr

/-- Whether a character is a mark. -/
def isMark (c : Char) : Bool :=
  c == '\x7b' || c == '\x7d' || c == '[' || c == ']' || c == ':' || c == ','

/-- What is remembered between two characters. -/
inductive Reading where
  | between
  /-- In a run, whose characters so far are given in reverse. -/
  | inRun (sofar : List Char)
  /-- In a quoted text, with its quote, its characters so far in reverse, and whether the last
  one was a backslash that takes the next character with it. -/
  | inQuotes (quote : Char) (sofar : List Char) (escaped : Bool)
  /-- Behind a slash that has to start a comment. -/
  | slash
  | lineComment
  /-- In a comment between marks of its own; `star` if a star came last. -/
  | blockComment (star : Bool)
  deriving DecidableEq, Repr

namespace Reading

/-- The reading behind a character that stands between chunks, with the mark that it may be. -/
def enter (spelling : Spelling) (c : Char) : List Chunk × Reading :=
  if spelling.isBlank c then ([], between)
  else if isMark c then ([.mark c], between)
  else if spelling.isQuote c then ([], inQuotes c [] false)
  else if spelling.comments && c == '/' then ([], slash)
  else ([], inRun [c])

/-- Whether a character goes on with a run. -/
def continuesRun (spelling : Spelling) (c : Char) : Bool :=
  !(spelling.isBlank c || isMark c || spelling.isQuote c || (spelling.comments && c == '/'))

/-- The chunks that a character completes, and the reading behind it. There is none behind a
slash that starts no comment. -/
def next? (spelling : Spelling) (r : Reading) (c : Char) : Option (List Chunk × Reading) :=
  match r with
  | between => some (enter spelling c)
  | inRun sofar =>
      if continuesRun spelling c then some ([], inRun (c :: sofar))
      else
        let (chunks, reading) := enter spelling c
        some (.run sofar.reverse :: chunks, reading)
  | inQuotes quote sofar escaped =>
      if escaped then some ([], inQuotes quote (c :: sofar) false)
      else if c = quote then some ([.quoted sofar.reverse], between)
      else some ([], inQuotes quote (c :: sofar) (c == '\\'))
  | slash =>
      if c = '/' then some ([], lineComment)
      else if c = '*' then some ([], blockComment false)
      else none
  | lineComment => some ([], if spelling.isLineEnd c then between else lineComment)
  | blockComment star =>
      if star && c == '/' then some ([], between) else some ([], blockComment (c == '*'))

/-- The chunks that the end of the text completes. Quotes and comments between marks have to be
closed before. -/
def finish? (r : Reading) : Option (List Chunk) :=
  match r with
  | between => some []
  | inRun sofar => some [.run sofar.reverse]
  | lineComment => some []
  | _ => none

end Reading

/-- The chunks of a text, read from the left. What is done is kept in reverse. -/
def chunks? (spelling : Spelling) (cs : List Char) : Option (List Chunk) := do
  let (done, reading) ← cs.foldlM
    (fun (done, reading) c => do
      let (chunks, reading) ← Reading.next? spelling reading c
      pure (chunks.reverse ++ done, reading))
    (([] : List Chunk), Reading.between)
  let chunks ← reading.finish?
  pure (done.reverse ++ chunks)

end Json

end Polybuild
