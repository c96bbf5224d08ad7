import Mathlib.Data.List.Nodup
import Polybuild.Proofs.Catalog.Tour
import Polybuild.Proofs.Disk.Spelling
import Polybuild.Proofs.Text.Sorted

/-!
# Which modules are discovered

`Reached` is the smallest set of places that is closed under declarations: what the declarations to
begin with point to, and what the module in a place of the set points to. It asks for the module
under the absolute path of its place, while a search may come there by another spelling, and this
makes no difference (`places_targets_congr`).

`discover_in_depth` says that a search visits these places, each once and in depth, and gives the
catalog of the modules in them, in the order of the visits.
-/

namespace Polybuild

namespace Disk

variable {d : Disk} {base p q : Path} {l l' : Location} {declaration : Declaration}
  {declarations : List Declaration} {paths : List Path}

/-! ## What a declaration points to -/

/-- The name of a directory that stands in a directory. -/
theorem mem_childDirectories {name : String} :
    name ∈ d.childDirectories l ↔ d.isDirectoryAt (name :: l) = true := by
  rw [childDirectories, List.mem_mergeSort, List.mem_filterMap, isDirectoryAt_iff]
  constructor
  · rintro ⟨⟨place, e⟩, hmem, hname⟩
    split at hname
    · rename_i first dir heq
      obtain ⟨rfl, rfl⟩ := Prod.mk.inj heq
      obtain ⟨rfl, rfl⟩ : dir = l ∧ first = name := by simpa using hname
      rw [entryAt?_cons]
      exact lookup_of_mem d.distinct hmem
    · simp at hname
  · intro h
    exact ⟨(name :: l, .directory), mem_entries_of_entryAt? (by simp) h, by simp⟩

/-- The directories in a directory are listed in the order of their names, each once. -/
theorem sorted_childDirectories (d : Disk) (l : Location) :
    (d.childDirectories l).Pairwise (· < ·) := by
  refine Text.pairwise_lt_mergeSort (List.Nodup.filterMap ?_ (List.Nodup.of_map _ d.distinct))
  intro entry entry' name h h'
  split at h
  · obtain ⟨rfl, rfl⟩ : _ = l ∧ _ = name := by simpa using h
    split at h'
    · obtain ⟨rfl, rfl⟩ : _ = _ ∧ _ = _ := by simpa using h'
      rfl
    · simp at h'
  · simp at h

/-- The list of the directories that a declaration points to. -/
inductive Lists (d : Disk) (base : Path) (declaration : Declaration) : List Path → Prop
  | blank (hsrc : Text.blank declaration.src = true) : Lists d base declaration []
  | module (hsrc : Text.blank declaration.src = false) (hkind : declaration.isFolder = false) :
      Lists d base declaration [(base.join declaration.src).normalize]
  | folder {l : Location} {names : List String} (hsrc : Text.blank declaration.src = false)
      (hkind : declaration.isFolder = true)
      (hplace : d.directory? (base.join declaration.src).normalize = some l)
      (sorted : names.Pairwise (· < ·))
      (all : ∀ name, name ∈ names ↔ d.isDirectoryAt (name :: l) = true) :
      Lists d base declaration (names.map (base.join declaration.src).normalize.join)
  | nowhere (hsrc : Text.blank declaration.src = false) (hkind : declaration.isFolder = true)
      (hplace : d.directory? (base.join declaration.src).normalize = none) :
      Lists d base declaration []

theorem lists_declared (d : Disk) (base : Path) (declaration : Declaration) :
    d.Lists base declaration (d.declared base declaration) := by
  unfold declared
  cases hsrc : Text.blank declaration.src with
  | true => exact .blank hsrc
  | false =>
      cases hkind : declaration.isFolder with
      | false => exact .module hsrc hkind
      | true =>
          cases hplace : d.directory? (base.join declaration.src).normalize with
          | none =>
              simp only [Bool.false_eq_true, ↓reduceIte, hplace]
              exact .nowhere hsrc hkind hplace
          | some l =>
              simp only [Bool.false_eq_true, ↓reduceIte, hplace]
              exact .folder hsrc hkind hplace (d.sorted_childDirectories l)
                fun name => mem_childDirectories

/-- There is only one such list. -/
theorem Lists.eq_declared (h : d.Lists base declaration paths) :
    paths = d.declared base declaration := by
  unfold declared
  cases h with
  | blank hsrc => simp [hsrc]
  | module hsrc hkind => simp [hsrc, hkind]
  | folder hsrc hkind hplace sorted all =>
      rename_i l names
      have hnames : names = d.childDirectories l := by
        have hsorted := d.sorted_childDirectories l
        have hperm : names.Perm (d.childDirectories l) :=
          (List.perm_ext_iff_of_nodup (sorted.imp String.ne_of_lt) (hsorted.imp String.ne_of_lt)).2
            fun name => (all name).trans mem_childDirectories.symm
        exact hperm.eq_of_pairwise (fun _ _ _ _ hab hba => absurd hba (String.lt_asymm hab))
          sorted hsorted
      simp [hsrc, hkind, hplace, hnames]
  | nowhere hsrc hkind hplace => simp [hsrc, hkind, hplace]

/-- Declarations in a directory point to a place. -/
def PointTo (d : Disk) (base : Path) (declarations : List Declaration) (l : Location) : Prop :=
  ∃ declaration ∈ declarations, ∃ paths, d.Lists base declaration paths ∧
    ∃ p ∈ paths, d.directory? p = some l

theorem pointTo_iff :
    d.PointTo base declarations l ↔ l ∈ d.places (d.declaredBy base declarations) := by
  simp only [PointTo, places, declaredBy, List.mem_filterMap, List.mem_flatMap]
  constructor
  · rintro ⟨declaration, hmem, paths, hpaths, p, hp, hl⟩
    exact ⟨p, ⟨declaration, hmem, hpaths.eq_declared ▸ hp⟩, hl⟩
  · rintro ⟨p, ⟨declaration, hmem, hp⟩, hl⟩
    exact ⟨declaration, hmem, _, d.lists_declared base declaration, p, hp, hl⟩

/-! ## What is reached by declarations -/

/-- The places that declarations lead to, at once or by what the modules found there declare. -/
inductive Reached (d : Disk) (base : Path) (declarations : List Declaration) : Location → Prop
  | declared {l : Location} (h : d.PointTo base declarations l) : Reached d base declarations l
  | nested {l l' : Location} {m : Module} (hl : Reached d base declarations l)
      (hm : d.module? l.path = some m) (h : d.PointTo m.path m.manifest.modules l') :
      Reached d base declarations l'

theorem places_declaredBy_congr (hp : p.isAbsolute = true) (hq : q.isAbsolute = true)
    (h : d.target p = d.target q) (declarations : List Declaration) :
    d.places (d.declaredBy p declarations) = d.places (d.declaredBy q declarations) := by
  have hplaces : ∀ paths, d.places paths = (paths.map d.directory?).filterMap id := by
    intro paths
    simp [places, List.filterMap_map]
  rw [hplaces, hplaces, declaredBy, declaredBy, List.map_flatMap, List.map_flatMap]
  simp only [map_directory?_declared hp hq h]

theorem module?_of_none (hpl : d.directory? p = some l) (hql : d.directory? q = some l)
    (h : d.module? p = none) : d.module? q = none := by
  cases hm : d.module? q with
  | none => rfl
  | some m =>
      obtain ⟨again, hagain, -⟩ := exists_module? hql hpl hm
      simp [h] at hagain

/-- What the module in a directory declares leads to the same places from every path of the
directory. -/
theorem places_targets_congr (hp : p.isAbsolute = true) (hq : q.isAbsolute = true)
    (hpl : d.directory? p = some l) (hql : d.directory? q = some l) :
    d.places (d.targets p) = d.places (d.targets q) := by
  have htarget : d.target p.normalize = d.target q.normalize := by
    rw [target_normalize, target_normalize,
      ← eq_target_of_locate (directory?_eq_some_iff.1 hpl).1,
      ← eq_target_of_locate (directory?_eq_some_iff.1 hql).1]
  unfold targets
  cases hm : d.module? p with
  | none => rw [module?_of_none hpl hql hm]
  | some m =>
      obtain ⟨again, hagain, hmanifest, hpath⟩ := exists_module? hpl hql hm
      have hmpath := (module?_eq_some_iff.1 hm).2.2
      rw [hagain]
      simp only [hmanifest, hpath, hmpath]
      exact places_declaredBy_congr (Path.isAbsolute_normalize hp) (Path.isAbsolute_normalize hq)
        htarget _

theorem Reached.of_targets {base : Path} {declarations : List Declaration}
    (hp : p.isAbsolute = true) (hl : d.directory? p = some l)
    (h : d.Reached base declarations l) (h' : l' ∈ d.places (d.targets p)) :
    d.Reached base declarations l' := by
  rw [places_targets_congr hp (isAbsolute_path l) hl (directory?_path hp hl), targets] at h'
  split at h'
  · simp [places] at h'
  · rename_i m hm
    exact .nested h hm (pointTo_iff.2 h')

theorem isAbsolute_of_mem_declaredBy (hbase : base.isAbsolute = true)
    (h : p ∈ d.declaredBy base declarations) : p.isAbsolute = true := by
  obtain ⟨declaration, -, hp⟩ := List.mem_flatMap.1 h
  exact isAbsolute_of_mem_declared hbase hp

theorem isAbsolute_of_mem_targets (hp : p.isAbsolute = true) (h : q ∈ d.targets p) :
    q.isAbsolute = true := by
  unfold targets at h
  split at h
  · simp at h
  · rename_i m hm
    refine isAbsolute_of_mem_declaredBy ?_ h
    rw [(module?_eq_some_iff.1 hm).2.2]
    exact Path.isAbsolute_normalize hp

/-- A tour from absolute paths that lead to reached places visits such paths only. -/
theorem reached_of_mem_tour {seen : List Location}
    (h : ∀ p ∈ paths, p.isAbsolute = true ∧
      ∀ l, d.directory? p = some l → d.Reached base declarations l) :
    ∀ p ∈ d.tour paths seen, p.isAbsolute = true ∧
      ∀ l, d.directory? p = some l → d.Reached base declarations l := by
  fun_induction d.tour paths seen with
  | case1 seen => simp
  | case2 p rest seen hp ih => exact ih (List.forall_mem_cons.1 h).2
  | case3 p rest seen l hp hmem ih => exact ih (List.forall_mem_cons.1 h).2
  | case4 p rest seen l hp hmem ih =>
      rw [List.forall_mem_cons] at h
      refine List.forall_mem_cons.2 ⟨h.1, ih fun q hq => ?_⟩
      rcases List.mem_append.1 hq with hq | hq
      · refine ⟨isAbsolute_of_mem_targets h.1.1 hq, fun l' hl' => ?_⟩
        exact .of_targets h.1.1 hp (h.1.2 l hp) (List.mem_filterMap.2 ⟨q, hq, hl'⟩)
      · exact h.2 q hq

/-- Where nothing comes next, all that was visited leads to places that were visited. -/
theorem mem_places_of_next? {roots done : List Path} (h : d.next? roots done = none)
    (hp : p ∈ roots ∨ ∃ q ∈ done, p ∈ d.targets q) (hl : d.directory? p = some l) :
    l ∈ d.places done := by
  have hmem : p ∈ done.reverse.flatMap d.targets ++ roots := by
    rw [List.mem_append, List.mem_flatMap]
    simpa [or_comm] using hp
  simpa [leadsOn_of_some hl] using List.find?_eq_none.1 h p hmem

theorem mem_places_of_reached {tour : List Path}
    (hdepth : d.InDepth (d.declaredBy base declarations) tour)
    (habs : ∀ p ∈ tour, p.isAbsolute = true) (h : d.Reached base declarations l) :
    l ∈ d.places tour := by
  have hend : d.next? (d.declaredBy base declarations) tour = none := by
    simpa using hdepth tour.length
  induction h with
  | declared hpoint =>
      obtain ⟨p, hp, hl⟩ := List.mem_filterMap.1 (pointTo_iff.1 hpoint)
      exact mem_places_of_next? hend (Or.inl hp) hl
  | nested hreached hm hpoint ih =>
      rename_i l l' m
      obtain ⟨q, hq, hql⟩ := List.mem_filterMap.1 ih
      have htargets : l' ∈ d.places (d.targets q) := by
        rw [places_targets_congr (habs q hq) (isAbsolute_path l) hql
          (directory?_path (habs q hq) hql), targets, hm]
        exact pointTo_iff.1 hpoint
      obtain ⟨p, hp, hl⟩ := List.mem_filterMap.1 htargets
      exact mem_places_of_next? hend (Or.inr ⟨q, hq, hp⟩) hl

/-- From an absolute directory, a search makes a tour of the places that the declarations lead to,
each once and in depth, and gives the catalog of the modules in them. So of all modules with a name
the first one on the tour is kept. -/
theorem discover_in_depth (d : Disk) (base : Path) (declarations : List Declaration)
    (hbase : base.isAbsolute = true) :
    ∃ tour : List Path,
      d.InDepth (d.declaredBy base declarations) tour ∧
      tour.map d.directory? = (d.search base declarations).seen.reverse.map some ∧
      (d.search base declarations).seen.Nodup ∧
      (∀ l, l ∈ (d.search base declarations).seen ↔ d.Reached base declarations l) ∧
      (∀ dir declaration, d.Lists dir declaration (d.declared dir declaration)) ∧
      d.discover base declarations = Catalog.ofModules (tour.filterMap d.module?) ∧
      ∀ name, (d.discover base declarations).get? name =
        (tour.filterMap d.module?).find? fun m => m.name == name := by
  have hfound := (foundOnTour_search d).2 .empty (d.declaredBy base declarations) []
  have hseen : (d.search base declarations).seen =
      (d.places (d.tour (d.declaredBy base declarations) [])).reverse := by
    rw [search, hfound.seen_eq, seenBehind, List.append_nil]
  have hcatalog : d.discover base declarations = Catalog.ofModules
      ((d.tour (d.declaredBy base declarations) []).filterMap d.module?) := hfound.catalog_eq
  have hdepth := d.inDepth_tour (d.declaredBy base declarations)
  have hreached : ∀ p ∈ d.tour (d.declaredBy base declarations) [], p.isAbsolute = true ∧
      ∀ l, d.directory? p = some l → d.Reached base declarations l := by
    refine reached_of_mem_tour fun p hp => ⟨isAbsolute_of_mem_declaredBy hbase hp, fun l hl => ?_⟩
    exact .declared (pointTo_iff.2 (List.mem_filterMap.2 ⟨p, hp, hl⟩))
  refine ⟨d.tour (d.declaredBy base declarations) [], hdepth, ?_, ?_, fun l => ?_,
    d.lists_declared, hcatalog, fun name => ?_⟩
  · rw [hseen, List.reverse_reverse, map_directory?_tour]
  · rw [hseen, List.nodup_reverse]
    exact (d.nodup_places_tour _ _).1
  · rw [hseen, List.mem_reverse]
    constructor
    · intro hl
      obtain ⟨p, hp, hpl⟩ := List.mem_filterMap.1 hl
      exact (hreached p hp).2 l hpl
    · exact mem_places_of_reached hdepth fun p hp => (hreached p hp).1
  · rw [hcatalog, Catalog.ofModules, Catalog.get?_foldl_insert]
    rfl

end Disk

namespace Twins

/-- Two modules with one name. The first declares itself and the second, which declares a third. -/
def disk : Disk where
  entries := [(["a"], .directory), (["b"], .directory), (["c", "b"], .directory),
    (["module.json", "a"],
      .file ("\x7b\"name\":\"A\",\"modules\":" ++
        "[\x7b\"src\":\".\"\x7d,\x7b\"src\":\"../b\"\x7d]\x7d").toUTF8),
    (["module.json", "b"],
      .file "\x7b\"name\":\"A\",\"modules\":[\x7b\"src\":\"c\"\x7d]\x7d".toUTF8),
    (["module.json", "c", "b"], .file "\x7b\"name\":\"C\"\x7d".toUTF8)]
  workDir := []
  distinct := by decide
  housed := by
    intro l e h
    simp only [List.mem_cons, Prod.mk.injEq, List.not_mem_nil, or_false] at h
    rcases h with h | h | h | h | h | h <;> simp [h]

/-- What a module declares is reached with the module. -/
theorem reached_of_declares {l l' : Location} (p : Path) (declarations : List Declaration)
    (hl : disk.Reached ⟨"/"⟩ [.module "a"] l)
    (hm : (disk.module? l.path).map (fun m => (m.path, m.manifest.modules)) =
      some (p, declarations))
    (hpoint : l' ∈ disk.places (disk.declaredBy p declarations)) :
    disk.Reached ⟨"/"⟩ [.module "a"] l' := by
  obtain ⟨m, hmodule, heq⟩ := Option.map_eq_some_iff.1 hm
  obtain ⟨rfl, rfl⟩ := Prod.mk.inj heq
  exact .nested hl hmodule (Disk.pointTo_iff.2 hpoint)

theorem reached_third : disk.Reached ⟨"/"⟩ [.module "a"] ["c", "b"] := by
  have hfirst : disk.Reached ⟨"/"⟩ [.module "a"] ["a"] :=
    .declared (Disk.pointTo_iff.2 (by decide +kernel))
  have hsecond : disk.Reached ⟨"/"⟩ [.module "a"] ["b"] :=
    reached_of_declares ⟨"/a"⟩ [.module ".", .module "../b"] hfirst
      (by decide +kernel) (by decide +kernel)
  exact reached_of_declares ⟨"/b"⟩ [.module "c"] hsecond (by decide +kernel) (by decide +kernel)

/-- The third module is found, though only the second declares it and the name of the second was
taken before. -/
theorem third_discovered :
    (⟨"/"⟩ : Path).isAbsolute = true ∧
      ["c", "b"] ∈ (disk.search ⟨"/"⟩ [.module "a"]).seen ∧
      (disk.search ⟨"/"⟩ [.module "a"]).seen.Nodup := by
  have habs : (⟨"/"⟩ : Path).isAbsolute = true := by decide
  obtain ⟨-, -, -, hnodup, hseen, -⟩ := disk.discover_in_depth ⟨"/"⟩ [.module "a"] habs
  exact ⟨habs, (hseen _).2 reached_third, hnodup⟩

end Twins

end Polybuild
