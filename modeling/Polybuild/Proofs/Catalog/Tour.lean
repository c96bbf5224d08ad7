import Polybuild.Catalog.Discover
import Polybuild.Proofs.Catalog.Merge
import Polybuild.Proofs.Catalog.Owner

/-!
# The tour of a search

A search for modules goes in depth, with one search inside another. `tour` lists the directories in
the order in which they are visited, from one list of directories that are still to be looked at:
what the module in a directory declares is put in front of the rest. `foundOnTour_search` says that
the search visits the directories of this tour and gathers the modules in them, in its order.

`InDepth` says what the order of a tour is without any recursion: the directory that is visited
next is the first new one that the latest visit leads to, if it leads to a new one, and else the
first new one of the visit before, and so on down to the directories to begin with. When nothing
is next, nothing that was visited leads anywhere new.
-/

namespace Polybuild

namespace Disk

variable {d : Disk} {p : Path} {l : Location} {seen : List Location}
  {paths roots done rest : List Path} {c : Catalog}

/-- The directories that the module in a directory declares. -/
def targets (d : Disk) (p : Path) : List Path :=
  match d.module? p with
  | none => []
  | some m => d.declaredBy m.path m.manifest.modules

/-- The places of directories. -/
def places (d : Disk) (paths : List Path) : List Location :=
  paths.filterMap d.directory?

/-- Whether a path leads to a directory that is none of those in a list. -/
def leadsOn (d : Disk) (done : List Path) (p : Path) : Bool :=
  match d.directory? p with
  | none => false
  | some l => !(d.places done).contains l

/-- The directory that comes next in depth behind some visits, with `roots` to begin with. -/
def next? (d : Disk) (roots done : List Path) : Option Path :=
  (done.reverse.flatMap d.targets ++ roots).find? (d.leadsOn done)

/-- Every visit of a tour is the next one in depth, and at its end there is none. -/
def InDepth (d : Disk) (roots tour : List Path) : Prop :=
  ∀ k, d.next? roots (tour.take k) = tour[k]?

/-- The directories that are visited from a list on, in order. Places that were seen before are
passed over. -/
def tour (d : Disk) : List Path → List Location → List Path
  | [], _ => []
  | p :: rest, seen =>
      match _ : d.directory? p with
      | none => d.tour rest seen
      | some l =>
          if _ : seen.contains l then d.tour rest seen
          else p :: d.tour (d.targets p ++ rest) (l :: seen)
termination_by todo seen => ((d.unseen seen).length, todo.length)
decreasing_by
  · exact Prod.Lex.right _ (by simp)
  · exact Prod.Lex.right _ (by simp)
  · exact Prod.Lex.left _ _ (length_unseen_lt ‹_› (Bool.eq_false_iff.2 ‹_›))

/-- The places seen behind a tour. -/
def seenBehind (d : Disk) (seen : List Location) (paths : List Path) : List Location :=
  (d.places (d.tour paths seen)).reverse ++ seen

@[simp] theorem tour_nil (d : Disk) (seen : List Location) : d.tour [] seen = [] := by
  rw [tour]

theorem tour_cons_of_none (h : d.directory? p = none) :
    d.tour (p :: rest) seen = d.tour rest seen := by
  rw [tour]
  split
  · rfl
  · rename_i l hl
    simp [h] at hl

theorem tour_cons_of_seen (h : d.directory? p = some l) (hseen : seen.contains l = true) :
    d.tour (p :: rest) seen = d.tour rest seen := by
  rw [tour]
  split
  · rfl
  · rename_i l' hl
    obtain rfl : l = l' := by simpa [h] using hl
    rw [dif_pos hseen]

theorem tour_cons_of_new (h : d.directory? p = some l) (hnew : seen.contains l = false) :
    d.tour (p :: rest) seen = p :: d.tour (d.targets p ++ rest) (l :: seen) := by
  rw [tour]
  split
  · rename_i hl
    simp [h] at hl
  · rename_i l' hl
    obtain rfl : l = l' := by simpa [h] using hl
    rw [dif_neg (Bool.eq_false_iff.1 hnew)]

/-- A tour from two lists is one from the first and then one from the second. -/
theorem tour_append (d : Disk) (paths rest : List Path) (seen : List Location) :
    d.tour (paths ++ rest) seen = d.tour paths seen ++ d.tour rest (d.seenBehind seen paths) := by
  fun_induction d.tour paths seen generalizing rest with
  | case1 seen => simp [seenBehind, places]
  | case2 p paths seen hp ih =>
      rw [List.cons_append, tour_cons_of_none hp, ih, seenBehind, seenBehind, tour_cons_of_none hp]
  | case3 p paths seen l hp hseen ih =>
      rw [List.cons_append, tour_cons_of_seen hp hseen, ih, seenBehind, seenBehind,
        tour_cons_of_seen hp hseen]
  | case4 p paths seen l hp hseen ih =>
      have hnew := Bool.eq_false_iff.2 hseen
      rw [List.cons_append, tour_cons_of_new hp hnew, ← List.append_assoc, ih, List.cons_append,
        seenBehind, seenBehind, tour_cons_of_new hp hnew]
      simp [places, hp]

theorem seenBehind_cons (d : Disk) (p : Path) (rest : List Path) (seen : List Location) :
    d.seenBehind seen (p :: rest) = d.seenBehind (d.seenBehind seen [p]) rest := by
  rw [seenBehind, ← List.singleton_append, tour_append, places, List.filterMap_append,
    List.reverse_append, List.append_assoc]
  rfl

/-! ## What a search visits and gathers -/

/-- What is found on a tour: the modules in its directories, put into a catalog in its order. -/
structure FoundOnTour (d : Disk) (c : Catalog) (paths : List Path) (seen : List Location)
    (f : Findings seen) : Prop where
  seen_eq : f.seen = d.seenBehind seen paths
  catalog_eq : f.catalog = ((d.tour paths seen).filterMap d.module?).foldl Catalog.insert c

theorem searchModule_of_none (h : d.directory? p = none) :
    d.searchModule p seen = ⟨.empty, seen, fun _ h => h⟩ := by
  rw [searchModule]
  split
  · rfl
  · rename_i l hl
    simp [h] at hl

theorem searchModule_of_some (h : d.directory? p = some l) :
    d.searchModule p seen =
      if _ : seen.contains l then ⟨.empty, seen, fun _ h => h⟩
      else
        match d.module? p with
        | none => ⟨.empty, l :: seen, List.subset_cons_self l seen⟩
        | some m =>
            let nested :=
              d.searchEach .empty (d.declaredBy m.path m.manifest.modules) (l :: seen)
            ⟨(Catalog.empty.insert m).extend nested.catalog, nested.seen,
              List.Subset.trans (List.subset_cons_self l seen) nested.grows⟩ := by
  rw [searchModule]
  split
  · rename_i hl
    simp [h] at hl
  · rename_i l' hl
    obtain rfl : l = l' := by simpa [h] using hl
    rfl

/-- A search makes a tour. -/
theorem foundOnTour_search (d : Disk) :
    (∀ p seen, d.FoundOnTour .empty [p] seen (d.searchModule p seen)) ∧
      ∀ c paths seen, d.FoundOnTour c paths seen (d.searchEach c paths seen) := by
  apply searchModule.mutual_induct d
  case case1 =>
    intro p seen hp
    have htour : d.tour [p] seen = [] := by rw [tour_cons_of_none hp, tour_nil]
    rw [searchModule_of_none hp]
    exact ⟨by simp [seenBehind, places, htour], by simp [htour]⟩
  case case2 =>
    intro p seen l hp hseen
    have htour : d.tour [p] seen = [] := by rw [tour_cons_of_seen hp hseen, tour_nil]
    rw [searchModule_of_some hp, dif_pos hseen]
    exact ⟨by simp [seenBehind, places, htour], by simp [htour]⟩
  case case3 =>
    intro p seen l hp hseen hm
    have htour : d.tour [p] seen = [p] := by
      rw [tour_cons_of_new hp (Bool.eq_false_iff.2 hseen)]
      simp [targets, hm]
    rw [searchModule_of_some hp, dif_neg hseen]
    simp only [hm]
    exact ⟨by simp [seenBehind, places, htour, hp], by simp [htour, hm]⟩
  case case4 =>
    intro p seen l hp hseen m hm hnested
    have htour : d.tour [p] seen =
        p :: d.tour (d.declaredBy m.path m.manifest.modules) (l :: seen) := by
      rw [tour_cons_of_new hp (Bool.eq_false_iff.2 hseen), List.append_nil, targets, hm]
    rw [searchModule_of_some hp, dif_neg hseen]
    simp only [hm]
    refine ⟨?_, ?_⟩
    · simp [seenBehind, places, htour, hp, hnested.seen_eq]
    · rw [hnested.catalog_eq, htour, List.filterMap_cons, hm]
      exact Catalog.extend_ofModules _ _
  case case5 =>
    intro c seen
    rw [searchEach]
    exact ⟨by simp [seenBehind, places], by simp⟩
  case case6 =>
    intro c p rest seen first hfirst _ hothers
    rw [searchEach]
    refine ⟨?_, ?_⟩
    · rw [seenBehind_cons, ← hfirst.seen_eq]
      exact hothers.seen_eq
    · rw [← List.singleton_append, tour_append, ← hfirst.seen_eq, List.filterMap_append,
        List.foldl_append, ← Catalog.extend_ofModules c, Catalog.ofModules, ← hfirst.catalog_eq]
      exact hothers.catalog_eq

/-- What declarations lead to is the catalog of the modules on their tour. -/
theorem discover_eq_ofModules (d : Disk) (base : Path) (declarations : List Declaration) :
    d.discover base declarations = Catalog.ofModules
      ((d.tour (d.declaredBy base declarations) []).filterMap d.module?) :=
  ((foundOnTour_search d).2 .empty (d.declaredBy base declarations) []).catalog_eq

/-! ## The order of a tour -/

theorem leadsOn_of_some (h : d.directory? p = some l) :
    d.leadsOn done p = !(d.places done).contains l := by
  simp [leadsOn, h]

/-- Behind a visit, what leads to the place of this visit leads to no new one. -/
theorem filter_leadsOn_concat (hp : d.directory? p = some l) (paths : List Path) :
    paths.filter (d.leadsOn (done ++ [p])) =
      (paths.filter (d.leadsOn done)).filter fun q => d.directory? q != some l := by
  rw [List.filter_filter]
  apply List.filter_congr
  intro q _
  unfold leadsOn
  cases hq : d.directory? q with
  | none => simp
  | some l' => by_cases h : l' = l <;> simp [places, hp, h]

theorem next?_eq_head? (d : Disk) (roots done : List Path) :
    d.next? roots done =
      ((done.reverse.flatMap d.targets ++ roots).filter (d.leadsOn done)).head? :=
  List.head?_filter.symm

/-- A tour goes on in depth from some visits, when the list that it starts from leads to the same
new directories as these visits do. -/
theorem next?_of_pending (hseen : ∀ l, l ∈ seen ↔ l ∈ d.places done)
    (hpending : paths.filter (d.leadsOn done) =
      (done.reverse.flatMap d.targets ++ roots).filter (d.leadsOn done)) (k : Nat) :
    d.next? roots (done ++ (d.tour paths seen).take k) = (d.tour paths seen)[k]? := by
  fun_induction d.tour paths seen generalizing done k with
  | case1 seen => simp [next?_eq_head?, ← hpending]
  | case2 p rest seen hp ih =>
      have hold : d.leadsOn done p = false := by simp [leadsOn, hp]
      rw [List.filter_cons_of_neg (by simp [hold])] at hpending
      exact ih hseen hpending k
  | case3 p rest seen l hp hmem ih =>
      have hdone : l ∈ d.places done := (hseen l).1 (by simpa using hmem)
      have hold : d.leadsOn done p = false := by simp [leadsOn_of_some hp, hdone]
      rw [List.filter_cons_of_neg (by simp [hold])] at hpending
      exact ih hseen hpending k
  | case4 p rest seen l hp hmem ih =>
      have hdone : l ∉ d.places done := fun h => hmem (by simpa using (hseen l).2 h)
      have hnew : d.leadsOn done p = true := by simp [leadsOn_of_some hp, hdone]
      rw [List.filter_cons_of_pos hnew] at hpending
      cases k with
      | zero => simp [next?_eq_head?, ← hpending]
      | succ k =>
          have hrest : rest.filter (d.leadsOn (done ++ [p])) =
              (done.reverse.flatMap d.targets ++ roots).filter (d.leadsOn (done ++ [p])) := by
            rw [filter_leadsOn_concat hp, filter_leadsOn_concat hp, ← hpending,
              List.filter_cons_of_neg (by simp [hp])]
          have hbehind : ∀ l', l' ∈ l :: seen ↔ l' ∈ d.places (done ++ [p]) := by
            simp [hseen, places, hp, or_comm]
          have hnext : (d.targets p ++ rest).filter (d.leadsOn (done ++ [p])) =
              ((done ++ [p]).reverse.flatMap d.targets ++ roots).filter
                (d.leadsOn (done ++ [p])) := by
            simp only [List.reverse_append, List.reverse_singleton, List.singleton_append,
              List.flatMap_cons, List.append_assoc, List.filter_append] at hrest ⊢
            rw [hrest]
          simpa using ih hbehind hnext k

/-- A tour is in depth. -/
theorem inDepth_tour (d : Disk) (roots : List Path) : d.InDepth roots (d.tour roots []) := by
  intro k
  have hpending : roots.filter (d.leadsOn []) =
      (([] : List Path).reverse.flatMap d.targets ++ roots).filter (d.leadsOn []) := by
    simp
  simpa using next?_of_pending (by simp [places]) hpending k

/-- No place is visited twice, and none that was seen before. -/
theorem nodup_places_tour (d : Disk) (paths : List Path) (seen : List Location) :
    (d.places (d.tour paths seen)).Nodup ∧ ∀ l ∈ d.places (d.tour paths seen), l ∉ seen := by
  fun_induction d.tour paths seen with
  | case1 seen => simp [places]
  | case2 p rest seen hp ih => exact ih
  | case3 p rest seen l hp hmem ih => exact ih
  | case4 p rest seen l hp hmem ih =>
      have hcons : d.places (p :: d.tour (d.targets p ++ rest) (l :: seen)) =
          l :: d.places (d.tour (d.targets p ++ rest) (l :: seen)) := by
        simp [places, hp]
      rw [hcons, List.nodup_cons, List.forall_mem_cons]
      refine ⟨⟨fun h => ih.2 l h List.mem_cons_self, ih.1⟩, by simpa using hmem, ?_⟩
      exact fun l' hl' h => ih.2 l' hl' (List.mem_cons_of_mem l h)

/-- Only directories are visited. -/
theorem map_directory?_tour (d : Disk) (paths : List Path) (seen : List Location) :
    (d.tour paths seen).map d.directory? = (d.places (d.tour paths seen)).map some := by
  fun_induction d.tour paths seen with
  | case1 seen => rfl
  | case2 p rest seen hp ih => exact ih
  | case3 p rest seen l hp hmem ih => exact ih
  | case4 p rest seen l hp hmem ih =>
      rw [List.map_cons, ih, hp]
      simp [places, hp]

/-- Every discovered module was found in a directory. -/
theorem exists_module?_of_mem_discover {base : Path} {declarations : List Declaration} {m : Module}
    (h : m ∈ (d.discover base declarations).modules) : ∃ dir, d.module? dir = some m := by
  have hget := Catalog.get?_name h
  rw [discover_eq_ofModules, Catalog.ofModules, Catalog.get?_foldl_insert] at hget
  have hmem : m ∈ (d.tour (d.declaredBy base declarations) []).filterMap d.module? :=
    List.mem_of_find?_eq_some hget
  obtain ⟨dir, -, hdir⟩ := List.mem_filterMap.1 hmem
  exact ⟨dir, hdir⟩

end Disk

end Polybuild
