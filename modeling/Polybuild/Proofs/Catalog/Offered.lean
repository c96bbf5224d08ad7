import Polybuild.Proofs.Catalog.Merge
import Polybuild.Proofs.Requirements.Distinct

/-!
# What is offered to a catalog

A catalog is put together by inserting modules and by merging catalogs that were put together in
the same ways. A `Recipe` is one way to do so, and `offered` lists the modules that come up in it,
in order. Only this list counts: the catalog of a recipe is that of a list of modules
(`Recipe.catalog_eq`), and all that a catalog answers is read off the list
(`first_offered_stays`).
-/

namespace Polybuild

namespace Catalog

/-- The names of a list of modules are kept in order, each where it stands first. -/
theorem names_ofModules (ms : List Module) :
    (ofModules ms).names = (ms.map (·.name)).eraseDups := by
  induction ms using List.reverseRecOn with
  | nil => rfl
  | append_singleton ms m ih =>
      have hlast : ofModules (ms ++ [m]) = (ofModules ms).insert m := by
        simp [ofModules, List.foldl_append]
      have htaken : (ofModules ms).contains m.name = true ↔ m.name ∈ ms.map (·.name) := by
        rw [contains_iff_mem_names, ih, List.mem_eraseDups]
      rw [hlast, names_insert, ih, List.map_append, List.map_singleton, eraseDups_concat]
      simp only [htaken]

theorem ofModules_append (xs ys : List Module) :
    (ofModules xs).extend (ofModules ys) = ofModules (xs ++ ys) := by
  rw [extend_ofModules, ofModules, ofModules, List.foldl_append]

/-- A module leaves a catalog as it is just when it is turned away. -/
theorem offer_snd_eq_self_iff {c : Catalog} {m : Module} :
    (c.offer m).2 = c ↔ c.contains m.name = true := by
  constructor
  · intro hsame
    by_contra hnew
    have hlonger : (c.insert m).modules = c.modules ++ [m] := by rw [modules_insert, if_neg hnew]
    rw [insert, hsame] at hlonger
    simpa using congrArg List.length hlonger
  · exact fun htaken => congrArg Prod.snd (offer_of_contains htaken)

/-- A way to put a catalog together. -/
inductive Recipe where
  | empty
  | ofModules (ms : List Module)
  | insert (r : Recipe) (m : Module)
  | extend (r other : Recipe)

namespace Recipe

/-- The catalog that is put together. -/
def catalog : Recipe → Catalog
  | empty => .empty
  | ofModules ms => .ofModules ms
  | insert r m => (r.catalog.offer m).2
  | extend r other => r.catalog.extend other.catalog

/-- The modules that are offered on the way, those that are turned away among them. -/
def offered : Recipe → List Module
  | empty => []
  | ofModules ms => ms
  | insert r m => r.offered ++ [m]
  | extend r other => r.offered ++ other.offered

/-- Which catalogs were made on the way does not count. -/
theorem catalog_eq (r : Recipe) : r.catalog = Catalog.ofModules r.offered := by
  induction r with
  | empty => rfl
  | ofModules ms => rfl
  | insert r m ih =>
      rw [catalog, ih, offered, ← ofModules_append]
      rfl
  | extend r other ih ihother => rw [catalog, ih, ihother, offered, ofModules_append]

end Recipe

/-- However a catalog was put together, its names are distinct and the index gives their places;
the first module that was offered under a name is the one that is found; the names are those that
were offered, each where it came first; and a module is turned away, and changes nothing, just
when its name is there. Merging the catalogs of two lists is the catalog of both. -/
theorem first_offered_stays (r : Recipe) :
    r.catalog.names.Nodup ∧
      (∀ name i, r.catalog.index.get? name = some i ↔ r.catalog.names[i]? = some name) ∧
      (∀ name, r.catalog.get? name = r.offered.find? fun m => m.name == name) ∧
      r.catalog.names = (r.offered.map (·.name)).eraseDups ∧
      (∀ m, ((r.catalog.offer m).1 = false ↔ m.name ∈ r.catalog.names) ∧
        ((r.catalog.offer m).2 = r.catalog ↔ m.name ∈ r.catalog.names)) ∧
      ∀ xs ys, (ofModules xs).extend (ofModules ys) = ofModules (xs ++ ys) := by
  refine ⟨r.catalog.distinct, r.catalog.indexed, fun name => ?_, ?_, fun m => ⟨?_, ?_⟩,
    ofModules_append⟩
  · rw [r.catalog_eq, ofModules, get?_foldl_insert]
    rfl
  · rw [r.catalog_eq, names_ofModules]
  · rw [offer_fst, ← contains_iff_mem_names]
    simp
  · rw [offer_snd_eq_self_iff, contains_iff_mem_names]

end Catalog

end Polybuild
