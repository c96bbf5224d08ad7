import Mathlib.Data.List.Induction
import Mathlib.Data.List.Nodup
import Polybuild.Catalog.Basic

/-!
# Merging catalogs

Modules are put into a catalog one after the other, and the first one of a name stays. So the
modules of a list are found as in the list itself (`get?_foldl_insert`), and merging the catalog
of a list is putting in the list (`extend_ofModules`): which catalogs were made on the way does not
count.
-/

namespace Polybuild

/-! ## Tables with the same places -/

namespace Keyed

variable {α : Type} {s t : Keyed α} {key : String} {value : α}

theorem mem_entries_iff : (key, value) ∈ t.entries ↔ t.get? key = some value := by
  rw [get?, List.lookup_eq_some_iff]
  constructor
  · intro hmem
    obtain ⟨before, after, hentries⟩ := List.append_of_mem hmem
    refine ⟨before, after, hentries, fun entry hentry => ?_⟩
    have hlt : entry.1 < key :=
      (List.pairwise_append.1 (hentries ▸ t.sorted)).2.2 entry hentry _ List.mem_cons_self
    simpa using (String.ne_of_lt hlt).symm
  · rintro ⟨before, after, hentries, -⟩
    simp [hentries]

/-- A table is known by what is looked up in it. -/
theorem eq_of_get? (h : ∀ key, s.get? key = t.get? key) : s = t := by
  have hnodup : ∀ u : Keyed α, u.entries.Nodup := fun u =>
    u.sorted.imp fun hlt heq => String.ne_of_lt hlt (congrArg Prod.fst heq)
  have hperm : s.entries.Perm t.entries :=
    (List.perm_ext_iff_of_nodup (hnodup s) (hnodup t)).2 fun entry => by
      rw [mem_entries_iff, mem_entries_iff, h]
  have hentries : s.entries = t.entries :=
    hperm.eq_of_pairwise (fun _ _ _ _ hab hba => absurd hba (String.lt_asymm hab))
      s.sorted t.sorted
  cases s
  cases t
  simpa using hentries

/-- There is only one index of some names. -/
theorem Places.eq {index index' : Keyed Nat} {names : List String} (h : index.Places names)
    (h' : index'.Places names) : index = index' :=
  eq_of_get? fun name => Option.ext fun i => (h name i).trans (h' name i).symm

end Keyed

namespace Catalog

variable {c : Catalog} {m : Module} {name : String}

@[ext] theorem eq_of_modules {other : Catalog} (h : c.modules = other.modules) : c = other := by
  obtain ⟨modules, index, hindexed⟩ := c
  obtain ⟨modules', index', hindexed'⟩ := other
  obtain rfl : modules = modules' := h
  obtain rfl := hindexed.eq hindexed'
  rfl

theorem contains_iff_exists : c.contains name = true ↔ ∃ m ∈ c.modules, m.name = name := by
  simp [contains_iff_mem_names, names]

theorem contains_insert (c : Catalog) (m : Module) (name : String) :
    (c.insert m).contains name = true ↔ c.contains name = true ∨ m.name = name := by
  rw [contains_iff_exists, contains_iff_exists, modules_insert]
  split
  · rename_i htaken
    obtain ⟨n, hn, hname⟩ := contains_iff_exists.1 htaken
    constructor
    · exact Or.inl
    · rintro (h | rfl)
      · exact h
      · exact ⟨n, hn, hname⟩
  · simp [or_and_right, exists_or]

theorem get?_insert (c : Catalog) (m : Module) (name : String) :
    (c.insert m).get? name = (c.get? name).or (if m.name = name then some m else none) := by
  simp only [get?_eq_find?, modules_insert]
  split
  · rename_i htaken
    by_cases hname : m.name = name
    · obtain ⟨n, hn, hsame⟩ := contains_iff_exists.1 htaken
      have hfound : (c.modules.find? fun m => m.name == name).isSome = true :=
        List.find?_isSome.2 ⟨n, hn, by simp [hsame, hname]⟩
      obtain ⟨first, hfirst⟩ := Option.isSome_iff_exists.1 hfound
      simp [hfirst]
    · simp [hname]
  · rw [List.find?_append]
    by_cases hname : m.name = name <;> simp [hname]

/-- The first module of a name stays. -/
theorem get?_foldl_insert (ms : List Module) (c : Catalog) (name : String) :
    (ms.foldl insert c).get? name = (c.get? name).or (ms.find? fun m => m.name == name) := by
  induction ms generalizing c with
  | nil => simp
  | cons m rest ih =>
      rw [List.foldl_cons, ih, get?_insert, Option.or_assoc]
      by_cases hname : m.name = name <;> simp [hname]

theorem contains_foldl_insert (ms : List Module) (c : Catalog) (name : String) :
    (ms.foldl insert c).contains name = true ↔
      c.contains name = true ∨ ∃ m ∈ ms, m.name = name := by
  induction ms generalizing c with
  | nil => simp
  | cons m rest ih => rw [List.foldl_cons, ih, contains_insert]; simp [or_assoc]

/-- Modules with new names are put at the end. -/
theorem modules_foldl_insert {ms : List Module}
    (h : ((c.modules ++ ms).map (·.name)).Nodup) :
    (ms.foldl insert c).modules = c.modules ++ ms := by
  induction ms generalizing c with
  | nil => simp
  | cons m rest ih =>
      have hnew : ¬c.contains m.name = true := by
        rw [contains_iff_exists]
        rintro ⟨n, hn, hname⟩
        rw [List.map_append, List.map_cons] at h
        exact (List.nodup_append.1 h).2.2 n.name (List.mem_map.2 ⟨n, hn, rfl⟩) m.name
          List.mem_cons_self hname
      have hinsert : (c.insert m).modules = c.modules ++ [m] := by
        rw [modules_insert, if_neg hnew]
      rw [List.append_cons, ← hinsert] at h
      rw [List.foldl_cons, ih h, hinsert, List.append_assoc, List.singleton_append]

/-- A catalog is that of its own modules. -/
theorem ofModules_modules (c : Catalog) : ofModules c.modules = c :=
  eq_of_modules (modules_foldl_insert (by simpa [empty] using c.distinct))

/-- Merging the catalog of some modules is putting in these modules. -/
theorem extend_ofModules (c : Catalog) (ms : List Module) :
    c.extend (ofModules ms) = ms.foldl insert c := by
  -- by induction from the last module: it is in the catalog of the others, or comes at its end
  induction ms using List.reverseRecOn with
  | nil => rfl
  | append_singleton ms m ih =>
      rw [extend, ofModules, List.foldl_append, List.foldl_append, List.foldl_cons, List.foldl_nil,
        List.foldl_cons, List.foldl_nil]
      rw [extend, ofModules] at ih
      by_cases htaken : (ms.foldl insert empty).contains m.name = true
      · have hbefore : ∃ n ∈ ms, n.name = m.name := by
          have hor := (contains_foldl_insert ms empty m.name).1 htaken
          simpa [contains_iff_exists, empty] using hor
        have hstays : (ms.foldl insert c).contains m.name = true :=
          (contains_foldl_insert ms c m.name).2 (Or.inr hbefore)
        rw [insert_of_contains htaken, ih, insert_of_contains hstays]
      · rw [modules_insert, if_neg htaken, List.foldl_append, ih, List.foldl_cons, List.foldl_nil]

end Catalog

end Polybuild
