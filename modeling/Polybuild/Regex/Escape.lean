import Polybuild.Charset.Lookup
import Polybuild.Regex.Flags
import Polybuild.Text.Digits

/-!
# What a backslash writes

Behind a backslash stands a character for itself, a character by its number, a set with a letter
or a name of its own, or a look. Letters and digits without a meaning are refused, and so are
references to groups.
-/

namespace Polybuild

namespace Regex

/-- Characters that may stand behind a backslash for themselves. -/
def isEscapable (c : Char) : Bool :=
  c.toNat < 0x80 && !c.isAlphanum && c ≠ '<' && c ≠ '>'

/-- The digits at the start, with what does not count behind each of them. -/
def takeDigits (f : Flags) (isDigit : Char → Bool) :
    Nat → List Char → Option (List Char × List Char)
  | 0, cs => some ([], cs)
  | n + 1, c :: cs =>
      if isDigit c then
        (takeDigits f isDigit n (f.skip cs)).map fun (ds, rest) => (c :: ds, rest)
      else none
  | _ + 1, [] => none

/-- The characters up to a closing brace, without what does not count between them, and the
rest behind the brace. `room` bounds their number. -/
def takeBraced (f : Flags) : Nat → List Char → Option (List Char × List Char)
  | 0, _ => none
  | room + 1, cs =>
      match f.skip cs with
      | [] => none
      | '\x7d' :: rest => some ([], rest)
      | c :: rest => (takeBraced f room rest).map fun (taken, rest) => (c :: taken, rest)

/-- The character whose number stands behind `x`, `u` or `U`. -/
def readNumber? (f : Flags) (digits : Nat) (cs : List Char) : Option (Primitive × List Char) :=
  match f.skip cs with
  | [] => none
  | '\x7b' :: rest => do
      let (ds, rest) ← takeBraced f (rest.length + 1) rest
      let n ← Text.hexadecimal? ds
      let c ← Text.char? n
      pure (.literal c false, f.skip rest)
  | cs => do
      let (ds, rest) ← takeDigits f (fun c => (Text.hexDigit? c).isSome) digits cs
      let n ← Text.hexadecimal? ds
      let c ← Text.char? n
      pure (.literal c (digits == 2), rest)

/-- The part of a name before a separator and the part behind it, if it has one. -/
def cutAt? (separator : List Char) : List Char → Option (String × String)
  | [] => none
  | c :: cs =>
      if separator.isPrefixOf (c :: cs) then
        some ("", String.ofList ((c :: cs).drop separator.length))
      else
        (cutAt? separator cs).map fun (before, behind) =>
          (String.ofList (c :: before.toList), behind)

/-- The set that stands between the braces of a named class. -/
def bracedSet? (name : List Char) : Option Charset :=
  match cutAt? ['!', '='] name with
  | some (name, value) => Charset.valued? name value
  | none =>
      match cutAt? [':'] name with
      | some (name, value) => Charset.valued? name value
      | none =>
          match cutAt? ['='] name with
          | some (name, value) => Charset.valued? name value
          | none => Charset.named? (String.ofList name)

/-- The set that is named behind `p` or `P`. -/
def readNamedSet? (f : Flags) (negated : Bool) (cs : List Char) :
    Option (Primitive × List Char) := do
  if !f.unicode then none
  let (s, rest) ←
    match f.skip cs with
    | [] => none
    | '\x7b' :: rest => do
        let (name, rest) ← takeBraced f (rest.length + 1) rest
        let s ← bracedSet? name
        pure (s, rest)
    | c :: rest => do
        let s ← if c = '\\' then none else Charset.named? c.toString
        pure (s, f.skip rest)
  let s ← negateSet? f negated (foldSet f s)
  pure (.set s, rest)

/-- The sets that have a letter of their own. -/
def letterSet? (f : Flags) (c : Char) : Option Charset :=
  match c.toLower with
  | 'd' => some (if f.unicode then .digits else .ofTable "30-39")
  | 's' => some (if f.unicode then .blanks else .ofTable "9-D 20")
  | 'w' => some (if f.unicode then .wordCharacters else .ofTable "30-39 41-5A 5F 61-7A")
  | _ => none

/-- The kinds of word boundaries that are named in braces. -/
def namedBoundary? (ascii : Bool) (name : List Char) : Option Look :=
  if name = "start".toList then some (.wordStart ascii)
  else if name = "end".toList then some (.wordEnd ascii)
  else if name = "start-half".toList then some (.wordStartHalf ascii)
  else if name = "end-half".toList then some (.wordEndHalf ascii)
  else none

/-- A word boundary, behind its letter. Braces with a letter or a dash in them name a kind of
boundary; other braces are left to be read as a count. -/
def readBoundary? (f : Flags) (cs : List Char) : Option (Primitive × List Char) :=
  let plain : Primitive := .look (.wordBoundary (!f.unicode))
  let isNamePart (c : Char) : Bool := c.isAlpha || c == '-'
  match cs with
  | '\x7b' :: inner =>
      match f.skip inner with
      | [] => none
      | c :: _ =>
          if isNamePart c then do
            let (name, rest) ← takeBraced f (inner.length + 1) inner
            if name.all isNamePart then
              let l ← namedBoundary? (!f.unicode) name
              pure (.look l, rest)
            else none
          else some (plain, cs)
  | _ => some (plain, cs)

/-- What stands behind a backslash. -/
def readEscape? (f : Flags) (cs : List Char) : Option (Primitive × List Char) :=
  match cs with
  | [] => none
  | c :: rest =>
      let literal (c : Char) : Option (Primitive × List Char) := some (.literal c false, rest)
      let look (l : Look) : Option (Primitive × List Char) := some (.look l, rest)
      if isEscapable c then literal c
      else
        match c with
        | 'x' => readNumber? f 2 rest
        | 'u' => readNumber? f 4 rest
        | 'U' => readNumber? f 8 rest
        | 'p' => readNamedSet? f false rest
        | 'P' => readNamedSet? f true rest
        | 'a' => literal '\x07'
        | 'f' => literal '\x0c'
        | 't' => literal '\t'
        | 'n' => literal '\n'
        | 'r' => literal '\r'
        | 'v' => literal '\x0b'
        | 'A' => look .textStart
        | 'z' => look .textEnd
        | 'b' => readBoundary? f rest
        | 'B' => look (.noWordBoundary (!f.unicode))
        | '<' => look (.wordStart (!f.unicode))
        | '>' => look (.wordEnd (!f.unicode))
        | c => do
            let s ← letterSet? f c
            let s ← negateSet? f c.isUpper s
            pure (.set s, rest)

end Regex

end Polybuild
