/-!
# Pieces of a text between separators

`pieces sep cs` cuts `cs` at every separator; there is always one piece more than there are
separators, and the pieces may be empty. `joinWith` puts them together again, and
`joinWith_pieces` says that nothing is lost on the way.
-/

namespace Polybuild

namespace Text

/-- The pieces of a list of characters between its separators. -/
def pieces (sep : Char) : List Char → List (List Char)
  | [] => [[]]
  | c :: cs =>
      if c = sep then [] :: pieces sep cs
      else
        match pieces sep cs with
        | [] => [[c]]
        | p :: ps => (c :: p) :: ps

@[simp] theorem pieces_nil (sep : Char) : pieces sep [] = [[]] := rfl

theorem pieces_ne_nil (sep : Char) (cs : List Char) : pieces sep cs ≠ [] := by
  cases cs with
  | nil => simp
  | cons c cs =>
      rw [pieces]
      split
      · simp
      · split <;> simp

/-- The pieces, each behind the separator except the first. -/
def joinWith (sep : Char) : List (List Char) → List Char
  | [] => []
  | [p] => p
  | p :: q :: ps => p ++ sep :: joinWith sep (q :: ps)

/-- Joining the pieces gives the text back. -/
theorem joinWith_pieces (sep : Char) (cs : List Char) : joinWith sep (pieces sep cs) = cs := by
  induction cs with
  | nil => rfl
  | cons c cs ih =>
      rw [pieces]
      cases h : pieces sep cs with
      | nil => exact absurd h (pieces_ne_nil sep cs)
      | cons p ps =>
          rw [h] at ih
          by_cases hc : c = sep
          · simp [hc, joinWith, ih]
          · cases ps with
            | nil => simpa [hc, joinWith] using ih
            | cons q qs => simpa [hc, joinWith] using ih

/-- No piece holds a separator. -/
theorem not_mem_of_mem_pieces {sep : Char} {cs p : List Char} (h : p ∈ pieces sep cs) :
    sep ∉ p := by
  induction cs generalizing p with
  | nil => simp_all
  | cons c cs ih =>
      rw [pieces] at h
      cases hp : pieces sep cs with
      | nil => exact absurd hp (pieces_ne_nil sep cs)
      | cons q qs =>
          rw [hp] at h ih
          by_cases hc : c = sep
          · simp only [hc, ↓reduceIte, List.mem_cons] at h
            rcases h with h | h
            · simp [h]
            · exact ih (by simpa using h)
          · simp only [hc, ↓reduceIte, List.mem_cons] at h
            rcases h with h | h
            · subst h
              simpa [Ne.symm hc] using ih (p := q) (by simp)
            · exact ih (by simp [h])

/-- The pieces of a text between separators. -/
def split (sep : Char) (s : String) : List String :=
  (pieces sep s.toList).map String.ofList

/-- The texts of a list, with `sep` between neighbours. -/
def join (sep : String) : List String → String
  | [] => ""
  | [s] => s
  | s :: t :: rest => s ++ sep ++ join sep (t :: rest)

@[simp] theorem join_nil (sep : String) : join sep [] = "" := rfl

@[simp] theorem join_singleton (sep s : String) : join sep [s] = s := rfl

theorem join_cons_cons (sep s t : String) (rest : List String) :
    join sep (s :: t :: rest) = s ++ sep ++ join sep (t :: rest) := rfl

/-- What follows the first text in the second, if the second starts with it. -/
def afterStart? (start s : String) : Option String :=
  if start.toList.isPrefixOf s.toList then some (String.ofList (s.toList.drop start.length))
  else none

theorem afterStart?_append (start rest : String) :
    afterStart? start (start ++ rest) = some rest := by
  simp [afterStart?, ← String.length_toList]

/-- The piece behind the last separator. -/
def lastPiece (sep : Char) (s : String) : String :=
  String.ofList (s.toList.reverse.takeWhile (· ≠ sep)).reverse

end Text

end Polybuild
