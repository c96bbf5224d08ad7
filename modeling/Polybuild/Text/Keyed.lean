/-!
# Tables keyed by text

A table keeps one value for each of its keys and lists the keys in text order. The order is part
of the type, so two tables with the same entries are equal. `insert` puts a value under a key in
place of the one that was there.

The main statement is `get?_insert`: after an insertion the key has the new value and every
other key has what it had.
-/

namespace Polybuild

/-- Values under texts, the texts in order. -/
structure Keyed (α : Type) where
  entries : List (String × α)
  sorted : entries.Pairwise fun a b => a.1 < b.1
  deriving Repr

namespace Keyed

variable {α : Type}

/-- The table without entries. -/
def empty : Keyed α := ⟨[], .nil⟩

/-- The value under a key. -/
def get? (t : Keyed α) (key : String) : Option α :=
  t.entries.lookup key

/-- The keys in order. -/
def keys (t : Keyed α) : List String :=
  t.entries.map (·.1)

/-- The entries with a value put under a key. -/
def insertEntries (key : String) (value : α) : List (String × α) → List (String × α)
  | [] => [(key, value)]
  | entry :: rest =>
      if key < entry.1 then (key, value) :: entry :: rest
      else if key = entry.1 then (key, value) :: rest
      else entry :: insertEntries key value rest

theorem mem_insertEntries {key : String} {value : α} {entries : List (String × α)}
    {entry : String × α} (h : entry ∈ insertEntries key value entries) :
    entry = (key, value) ∨ entry ∈ entries := by
  induction entries with
  | nil => simpa [insertEntries] using h
  | cons first rest ih =>
      rw [insertEntries] at h
      split at h
      · simpa using h
      · split at h
        · rcases List.mem_cons.1 h with h | h
          · exact Or.inl h
          · exact Or.inr (List.mem_cons_of_mem _ h)
        · rcases List.mem_cons.1 h with h | h
          · exact Or.inr (h ▸ List.mem_cons_self)
          · exact (ih h).imp_right (List.mem_cons_of_mem _)

theorem sorted_insertEntries (key : String) (value : α) {entries : List (String × α)}
    (h : entries.Pairwise fun a b => a.1 < b.1) :
    (insertEntries key value entries).Pairwise fun a b => a.1 < b.1 := by
  induction entries with
  | nil => simp [insertEntries]
  | cons first rest ih =>
      obtain ⟨hfirst, hrest⟩ := List.pairwise_cons.1 h
      rw [insertEntries]
      split
      · rename_i hlt
        refine List.pairwise_cons.2 ⟨?_, h⟩
        intro b hb
        rcases List.mem_cons.1 hb with hb | hb
        · exact hb ▸ hlt
        · exact String.lt_trans hlt (hfirst b hb)
      · rename_i hnlt
        split
        · rename_i heq
          refine List.pairwise_cons.2 ⟨?_, hrest⟩
          intro b hb
          exact heq ▸ hfirst b hb
        · rename_i hne
          refine List.pairwise_cons.2 ⟨?_, ih hrest⟩
          intro b hb
          rcases mem_insertEntries hb with hb | hb
          · have hle : first.1 ≤ key := String.not_lt.1 hnlt
            exact hb ▸ Std.lt_of_le_of_ne hle (fun h => hne h.symm)
          · exact hfirst b hb

/-- The table with a value put under a key. -/
def insert (t : Keyed α) (key : String) (value : α) : Keyed α :=
  ⟨insertEntries key value t.entries, sorted_insertEntries key value t.sorted⟩

/-- The table of a list of entries; of several values under one key the last one counts. -/
def ofList (entries : List (String × α)) : Keyed α :=
  entries.foldl (fun t entry => t.insert entry.1 entry.2) empty

@[simp] theorem get?_empty (key : String) : (empty : Keyed α).get? key = none := rfl

theorem lookup_cons_eq_ite (key other : String) (value : α) (rest : List (String × α)) :
    ((key, value) :: rest).lookup other = if other = key then some value else rest.lookup other := by
  rw [List.lookup_cons]
  by_cases h : other = key
  · simp [h]
  · have h' : (other == key) = false := by simp [h]
    simp [h, h']

theorem lookup_insertEntries (key : String) (value : α) (other : String)
    {entries : List (String × α)} :
    (insertEntries key value entries).lookup other =
      if other = key then some value else entries.lookup other := by
  induction entries with
  | nil => simp [insertEntries, lookup_cons_eq_ite]
  | cons first rest ih =>
      obtain ⟨k, v⟩ := first
      rw [insertEntries]
      split
      · rw [lookup_cons_eq_ite]
      · split
        · rename_i heq
          simp only [lookup_cons_eq_ite]
          by_cases hk : other = key
          · simp [hk]
          · have hk' : ¬other = k := fun h => hk (h.trans heq.symm)
            simp [hk, hk']
        · rename_i hne
          simp only [lookup_cons_eq_ite, ih]
          by_cases hk : other = key
          · have hne' : ¬key = k := hne
            simp [hk, hne']
          · simp [hk]

theorem get?_insert (t : Keyed α) (key : String) (value : α) (other : String) :
    (t.insert key value).get? other = if other = key then some value else t.get? other :=
  lookup_insertEntries key value other

end Keyed

end Polybuild
