import Polybuild.Json.Token

/-!
# The tokens of a value

`Value.tokens` lists the tokens that a value is written with. Read back, they put the value into
the container that is open (`read_tokens`), so they say the value that they are the tokens of.
-/

namespace Polybuild

namespace Json

namespace Value

mutual

/-- The tokens of a value. -/
def tokens : Value → List Token
  | .string s => [.literal (some (.string s)) (some (some s))]
  | .array [] => [.openArray, .closeArray]
  | .array (v :: rest) => .openArray :: (tokens v ++ (itemTokens rest ++ [.closeArray]))
  | .object [] => [.openObject, .closeObject]
  | .object ((name, v) :: rest) =>
      .openObject :: .literal (some (.string name)) (some (some name)) :: .colon ::
        (tokens v ++ (fieldTokens rest ++ [.closeObject]))
  | v => [.literal (some v) none]

/-- The tokens of the items behind the first one. -/
def itemTokens : List Value → List Token
  | [] => []
  | v :: rest => .comma :: (tokens v ++ itemTokens rest)

/-- The tokens of the fields behind the first one. -/
def fieldTokens : List (String × Value) → List Token
  | [] => []
  | (name, v) :: rest =>
      .comma :: .literal (some (.string name)) (some (some name)) :: .colon ::
        (tokens v ++ fieldTokens rest)

end

end Value

variable {ok : Numeral → Bool} {p : Partial} {pending : List Pending} {v : Value}

/-- The fields of an object whose names are readable. -/
theorem objectOf_map (fields : List (String × Value)) :
    objectOf (fields.map fun field => (some field.1, field.2)) = .object fields := by
  have hnames : readableNames? (fields.map fun field => (some field.1, field.2)) = some fields := by
    induction fields with
    | nil => rfl
    | cons field rest ih => simp [readableNames?, ih]
  rw [objectOf, hnames]

/-- Whether a value may come next. -/
def Partial.WantsValue (p : Partial) : Prop :=
  p.expecting = .value ∨ p.expecting = .valueOrEnd

theorem Partial.next?_literal (hp : p.WantsValue) (v : Value) (name : Option (Option String)) :
    Partial.next? false p (.literal (some v) name) = put? p.pending v := by
  have hwants : p.expecting = .value ∨ p.expecting = .valueOrEnd := hp
  simp [Partial.next?, hwants]

theorem Partial.next?_openArray (hp : p.WantsValue) :
    Partial.next? false p .openArray = some ⟨.valueOrEnd, .array [] :: p.pending, none⟩ := by
  have hwants : p.expecting = .value ∨ p.expecting = .valueOrEnd := hp
  simp [Partial.next?, hwants]

theorem Partial.next?_openObject (hp : p.WantsValue) :
    Partial.next? false p .openObject = some ⟨.nameOrEnd, .object [] :: p.pending, none⟩ := by
  have hwants : p.expecting = .value ∨ p.expecting = .valueOrEnd := hp
  simp [Partial.next?, hwants]

/-- The document behind some tokens. -/
def Partial.read (p : Partial) (tokens : List Token) : Option Partial :=
  tokens.foldlM (Partial.next? false) p

theorem Partial.read_cons (p : Partial) (t : Token) (rest : List Token) :
    p.read (t :: rest) = (Partial.next? false p t).bind fun q => q.read rest :=
  List.foldlM_cons

mutual

/-- The tokens of a value put it where a value may come next. -/
theorem read_tokens (v : Value) (p : Partial) (hp : p.WantsValue) (rest : List Token) :
    p.read (v.tokens ++ rest) = (Partial.put? p.pending v).bind fun q => q.read rest := by
  cases v with
  | null | bool _ | number _ | string _ | unreadable =>
      simp only [Value.tokens, List.singleton_append]
      rw [Partial.read_cons, Partial.next?_literal hp]
  | array items =>
      cases items with
      | nil =>
          simp only [Value.tokens, List.cons_append, List.nil_append]
          rw [Partial.read_cons, Partial.next?_openArray hp, Option.bind_some, Partial.read_cons]
          rfl
      | cons v items =>
          simp only [Value.tokens, List.cons_append, List.append_assoc, List.nil_append]
          rw [Partial.read_cons, Partial.next?_openArray hp, Option.bind_some,
            read_tokens v _ (Or.inr rfl), Partial.put?, Option.bind_some, read_itemTokens]
          rfl
  | object fields =>
      cases fields with
      | nil =>
          simp only [Value.tokens, List.cons_append, List.nil_append]
          rw [Partial.read_cons, Partial.next?_openObject hp, Option.bind_some, Partial.read_cons]
          rfl
      | cons field fields =>
          obtain ⟨name, v⟩ := field
          simp only [Value.tokens, List.cons_append, List.append_assoc, List.nil_append]
          rw [Partial.read_cons, Partial.next?_openObject hp, Option.bind_some,
            read_field name v (Or.inr rfl)]
          exact read_fieldTokens fields [(name, v)] p.pending rest

/-- The tokens of more items complete the list that is open. -/
theorem read_itemTokens (vs acc : List Value) (pending : List Pending) (rest : List Token) :
    (Partial.mk .commaOrEnd (.array acc :: pending) none).read
        (Value.itemTokens vs ++ .closeArray :: rest) =
      (Partial.put? pending (.array (acc.reverse ++ vs))).bind fun q => q.read rest := by
  cases vs with
  | nil =>
      simp only [Value.itemTokens, List.nil_append, List.append_nil]
      rw [Partial.read_cons]
      rfl
  | cons v vs =>
      simp only [Value.itemTokens, List.cons_append, List.append_assoc]
      rw [Partial.read_cons]
      simp only [Partial.next?, ↓reduceIte, Option.bind_some, Bool.false_eq_true]
      rw [read_tokens v _ (Or.inl rfl), Partial.put?, Option.bind_some, read_itemTokens]
      simp

/-- The tokens of a field put it into the object that is open. -/
theorem read_field (name : String) (v : Value) {expecting : Expecting}
    (hexpecting : expecting = .name ∨ expecting = .nameOrEnd)
    (fields : List (Option String × Value)) (pending : List Pending) (rest : List Token) :
    (Partial.mk expecting (.object fields :: pending) none).read
        (.literal (some (.string name)) (some (some name)) :: .colon :: (v.tokens ++ rest)) =
      (Partial.mk .commaOrEnd (.object ((some name, v) :: fields) :: pending) none).read rest := by
  rw [Partial.read_cons]
  have hliteral : Partial.next? false ⟨expecting, .object fields :: pending, none⟩
      (.literal (some (.string name)) (some (some name))) =
        some ⟨.colon, .field fields (some name) :: pending, none⟩ := by
    rcases hexpecting with rfl | rfl <;> rfl
  rw [hliteral, Option.bind_some, Partial.read_cons]
  simp only [Partial.next?, ↓reduceIte, Option.bind_some]
  rw [read_tokens v _ (Or.inl rfl), Partial.put?, Option.bind_some]

/-- The tokens of more fields complete the object that is open. -/
theorem read_fieldTokens (fields acc : List (String × Value)) (pending : List Pending)
    (rest : List Token) :
    (Partial.mk .commaOrEnd
        (.object (acc.map fun field => (some field.1, field.2)) :: pending) none).read
        (Value.fieldTokens fields ++ .closeObject :: rest) =
      (Partial.put? pending (.object (acc.reverse ++ fields))).bind fun q => q.read rest := by
  cases fields with
  | nil =>
      simp only [Value.fieldTokens, List.nil_append, List.append_nil]
      rw [Partial.read_cons]
      simp only [Partial.next?, or_true, ↓reduceIte]
      rw [← List.map_reverse, objectOf_map]
  | cons field fields =>
      obtain ⟨name, v⟩ := field
      simp only [Value.fieldTokens, List.cons_append, List.append_assoc]
      rw [Partial.read_cons]
      simp only [Partial.next?, ↓reduceIte, Option.bind_some, Bool.false_eq_true]
      rw [read_field name v (Or.inl rfl)]
      have hcons := read_fieldTokens fields ((name, v) :: acc) pending rest
      simpa using hcons

end

/-- The tokens of a value say this value. -/
theorem ofTokens?_tokens (v : Value) : Value.ofTokens? false v.tokens = some v := by
  have hread := read_tokens v .start (Or.inl rfl) []
  rw [List.append_nil] at hread
  have hfold : v.tokens.foldlM (Partial.next? false) .start = some ⟨.nothing, [], some v⟩ := hread
  rw [Value.ofTokens?, hfold]
  rfl

end Json

end Polybuild
