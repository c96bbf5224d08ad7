import Polybuild.Json.Value

/-!
# From tokens to a value

A document is a list of tokens: marks, and literals that are values or field names. `ofTokens?`
reads it from left to right with a stack of the lists and objects that are still open. Each
token must be one of those that may come next, which is what `Expecting` says; in the end one
value must be there and no container may be open.
-/

namespace Polybuild

namespace Json

/-- A token of a document. -/
inductive Token where
  | openArray
  | closeArray
  | openObject
  | closeObject
  | colon
  | comma
  /-- A literal: the value that it is, if it may stand as one, and the field name that it is, if
  it may stand as one. A field name that stands for no text is `some none`. -/
  | literal (value : Option Value) (name : Option (Option String))

/-- A list or an object that is not closed yet. What it holds so far is in reverse. -/
inductive Pending where
  | array (items : List Value)
  | object (fields : List (Option String × Value))
  /-- An object behind the name of its next field. -/
  | field (fields : List (Option String × Value)) (name : Option String)

/-- What may come next. -/
inductive Expecting where
  /-- A value. -/
  | value
  /-- A value, or the end of the list just opened or left with a comma. -/
  | valueOrEnd
  /-- A field name. -/
  | name
  /-- A field name, or the end of the object just opened or left with a comma. -/
  | nameOrEnd
  | colon
  /-- A comma, or the end of the container. -/
  | commaOrEnd
  /-- Nothing more. -/
  | nothing
  deriving DecidableEq, Repr

/-- The fields of an object, if all their names are readable. -/
def readableNames? : List (Option String × Value) → Option (List (String × Value))
  | [] => some []
  | (none, _) :: _ => none
  | (some name, v) :: rest => (readableNames? rest).map ((name, v) :: ·)

/-- A closed object: unreadable if one of its field names is. -/
def objectOf (fields : List (Option String × Value)) : Value :=
  match readableNames? fields with
  | some fields => .object fields
  | none => .unreadable

/-- A document part way through. -/
structure Partial where
  expecting : Expecting
  pending : List Pending
  /-- The whole value, once it is there. -/
  result : Option Value

namespace Partial

/-- Nothing read so far. -/
def start : Partial := ⟨.value, [], none⟩

/-- A complete value goes into the container that is open, or is the whole document. -/
def put? (pending : List Pending) (v : Value) : Option Partial :=
  match pending with
  | [] => some ⟨.nothing, [], some v⟩
  | .array items :: rest => some ⟨.commaOrEnd, .array (v :: items) :: rest, none⟩
  | .field fields name :: rest =>
      some ⟨.commaOrEnd, .object ((name, v) :: fields) :: rest, none⟩
  | .object _ :: _ => none

/-- The document one token further. With `loose` a comma may stand behind the last item. -/
def next? (loose : Bool) (p : Partial) (t : Token) : Option Partial :=
  let wantsValue := p.expecting = .value ∨ p.expecting = .valueOrEnd
  match t with
  | .openArray =>
      if wantsValue then some ⟨.valueOrEnd, .array [] :: p.pending, none⟩ else none
  | .openObject =>
      if wantsValue then some ⟨.nameOrEnd, .object [] :: p.pending, none⟩ else none
  | .closeArray =>
      match p.pending with
      | .array items :: rest =>
          if p.expecting = .valueOrEnd ∨ p.expecting = .commaOrEnd then
            put? rest (.array items.reverse)
          else none
      | _ => none
  | .closeObject =>
      match p.pending with
      | .object fields :: rest =>
          if p.expecting = .nameOrEnd ∨ p.expecting = .commaOrEnd then
            put? rest (objectOf fields.reverse)
          else none
      | _ => none
  | .colon =>
      if p.expecting = .colon then some { p with expecting := .value } else none
  | .comma =>
      if p.expecting = .commaOrEnd then
        match p.pending with
        | .array _ :: _ => some { p with expecting := if loose then .valueOrEnd else .value }
        | .object _ :: _ => some { p with expecting := if loose then .nameOrEnd else .name }
        | _ => none
      else none
  | .literal value name =>
      if wantsValue then value.bind (put? p.pending)
      else if p.expecting = .name ∨ p.expecting = .nameOrEnd then
        match p.pending, name with
        | .object fields :: rest, some name =>
            some ⟨.colon, .field fields name :: rest, none⟩
        | _, _ => none
      else none

end Partial

/-- The value that a list of tokens says. With `loose` a comma may stand behind the last item of
a list or an object. -/
def Value.ofTokens? (loose : Bool) (tokens : List Token) : Option Value :=
  (tokens.foldlM (Partial.next? loose) Partial.start).bind fun p => p.result

/-- The token of a mark. -/
def Token.ofMark? (c : Char) : Option Token :=
  if c = '[' then some .openArray
  else if c = ']' then some .closeArray
  else if c = '\x7b' then some .openObject
  else if c = '\x7d' then some .closeObject
  else if c = ':' then some .colon
  else if c = ',' then some .comma
  else none

end Json

end Polybuild
