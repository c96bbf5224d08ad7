import Polybuild.Module.Basic

/-!
# Catalogs of modules

A catalog is a list of modules in the order in which they were found, with an index that says for
each name where its module stands. `offer` puts a module at the end of the list and its name into
the index. A module whose name is taken is turned away, so the first one of a name stays.

List and index keep in step, which is part of the type: the index gives a place for a name just
when the name stands there in the list (`Keyed.Places`). So names are distinct (`distinct`), and
the index leads to the module that a search of the list finds (`get?_eq_find?`).

A file belongs to the module with the deepest directory around it. Of several modules in one
directory the last one has it.
-/

namespace Polybuild

namespace Keyed

/-- A table says for each of some names where it stands among them, and has no other names. -/
def Places (index : Keyed Nat) (names : List String) : Prop :=
  ∀ name i, index.get? name = some i ↔ names[i]? = some name

variable {index : Keyed Nat} {names : List String} {name : String}

theorem places_empty : (empty : Keyed Nat).Places [] := by
  simp [Places]

/-- A name with two places would have two values under one key. -/
theorem Places.nodup (h : index.Places names) : names.Nodup := by
  rw [List.nodup_iff_pairwise_ne, List.pairwise_iff_getElem]
  intro i j hi hj hij heq
  have hplace := (h _ i).2 (List.getElem?_eq_getElem hi)
  have hplace' := (h _ j).2 (List.getElem?_eq_getElem hj)
  rw [← heq, hplace] at hplace'
  exact Nat.ne_of_lt hij (Option.some.inj hplace')

theorem Places.isSome_get?_iff (h : index.Places names) :
    (index.get? name).isSome = true ↔ name ∈ names := by
  rw [Option.isSome_iff_exists, List.mem_iff_getElem?]
  exact exists_congr fun i => h name i

/-- A new name at the end has the place behind the others. -/
theorem Places.insert (h : index.Places names) (hnew : name ∉ names) :
    (index.insert name names.length).Places (names ++ [name]) := by
  intro other i
  rw [get?_insert, List.getElem?_append]
  by_cases hother : other = name
  · subst hother
    rcases Nat.lt_trichotomy i names.length with hlt | rfl | hgt
    · have hbefore : names[i]? ≠ some other := fun hi => hnew (List.mem_of_getElem? hi)
      rw [if_pos rfl, if_pos hlt]
      simp [Nat.ne_of_gt hlt, hbefore]
    · simp
    · have hbeyond : i - names.length ≠ 0 := Nat.sub_ne_zero_of_lt hgt
      simp [Nat.not_lt.2 (Nat.le_of_lt hgt), Nat.ne_of_lt hgt, hbeyond]
  · rw [if_neg hother, h]
    split
    · rfl
    · rename_i hbeyond
      simp [List.getElem?_eq_none (Nat.not_lt.1 hbeyond), List.getElem?_singleton,
        Ne.symm hother]

end Keyed

/-- Modules, and under each name the place of its module among them. -/
structure Catalog where
  modules : List Module
  index : Keyed Nat
  indexed : index.Places (modules.map (·.name))

namespace Catalog

theorem distinct (c : Catalog) : (c.modules.map (·.name)).Nodup :=
  c.indexed.nodup

/-- The catalog without modules. -/
def empty : Catalog := ⟨[], .empty, Keyed.places_empty⟩

/-- The names of the modules, in order. -/
def names (c : Catalog) : List String :=
  c.modules.map (·.name)

/-- The module of a name. -/
def get? (c : Catalog) (name : String) : Option Module :=
  (c.index.get? name).bind fun i => c.modules[i]?

/-- Whether a name is taken. -/
def contains (c : Catalog) (name : String) : Bool :=
  (c.index.get? name).isSome

theorem contains_iff_mem_names {c : Catalog} {name : String} :
    c.contains name = true ↔ name ∈ c.names :=
  c.indexed.isSome_get?_iff

/-- Offers a module to a catalog: whether it is taken in, and the catalog then. A module whose name
is taken is turned away, any other one comes to the end. -/
def offer (c : Catalog) (m : Module) : Bool × Catalog :=
  if h : c.contains m.name then (false, c)
  else
    (true,
      { modules := c.modules ++ [m]
        index := c.index.insert m.name c.modules.length
        indexed := by
          have hnew : m.name ∉ c.modules.map (·.name) := mt contains_iff_mem_names.2 h
          simpa using c.indexed.insert hnew })

/-- The catalog with a module at its end, unless its name is taken. -/
def insert (c : Catalog) (m : Module) : Catalog :=
  (c.offer m).2

/-- The catalog with the modules of another one behind its own. -/
def extend (c other : Catalog) : Catalog :=
  other.modules.foldl insert c

/-- The catalog of a list of modules. -/
def ofModules (modules : List Module) : Catalog :=
  modules.foldl insert empty

/-- The modules of the group that an entry refers to. -/
def withGroup (c : Catalog) (entry : String) : List Module :=
  c.modules.filter fun m => m.hasGroup entry

/-- How deep the directory of a module is. -/
def depth (m : Module) : Nat :=
  m.path.components.length

/-- The last one of the deepest modules of a list. -/
def deepest : List Module → Option Module
  | [] => none
  | m :: rest =>
      match deepest rest with
      | none => some m
      | some n => if depth m > depth n then some m else some n

/-- The module that a file belongs to. -/
def owner? (c : Catalog) (file : Path) : Option Module :=
  deepest (c.modules.filter fun m => m.containsFile file)

@[simp] theorem names_empty : empty.names = [] := rfl

theorem offer_of_contains {c : Catalog} {m : Module} (h : c.contains m.name = true) :
    c.offer m = (false, c) := by
  simp [offer, h]

theorem insert_of_contains {c : Catalog} {m : Module} (h : c.contains m.name = true) :
    c.insert m = c := by
  rw [insert, offer_of_contains h]

/-- A module is turned away just when its name is taken. -/
theorem offer_fst (c : Catalog) (m : Module) : (c.offer m).1 = !c.contains m.name := by
  unfold offer
  split <;> simp_all

theorem modules_insert (c : Catalog) (m : Module) :
    (c.insert m).modules = if c.contains m.name then c.modules else c.modules ++ [m] := by
  unfold insert offer
  split <;> simp_all

theorem names_insert (c : Catalog) (m : Module) :
    (c.insert m).names = if c.contains m.name then c.names else c.names ++ [m.name] := by
  rw [names, modules_insert]
  split <;> simp [names]

/-- The index leads to the module that a search of the list finds. -/
theorem get?_eq_find? (c : Catalog) (name : String) :
    c.get? name = c.modules.find? fun m => m.name == name := by
  unfold get?
  cases hplace : c.index.get? name with
  | none =>
      have hno : name ∉ c.modules.map (·.name) := by
        rw [← c.indexed.isSome_get?_iff, hplace]
        simp
      symm
      simpa using hno
  | some i =>
      have hname := (c.indexed name i).1 hplace
      rw [List.getElem?_map, Option.map_eq_some_iff] at hname
      obtain ⟨m, hm, hname⟩ := hname
      obtain ⟨hi, heq⟩ := List.getElem?_eq_some_iff.1 hm
      rw [Option.bind_some, hm, eq_comm, List.find?_eq_some_iff_getElem]
      refine ⟨by simp [hname], i, hi, heq, fun j hj => ?_⟩
      -- a module of the name further in front would have its place in the index
      have hother : (c.modules.map (·.name))[j]? ≠ some name := by
        rw [Ne, ← c.indexed, hplace]
        simpa using Nat.ne_of_gt hj
      simpa [Nat.lt_trans hj hi] using hother

end Catalog

end Polybuild
