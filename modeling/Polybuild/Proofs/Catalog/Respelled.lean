import Polybuild.Proofs.Catalog.Discovery
import Polybuild.Proofs.Disk.Relative

/-!
# Discovery from two paths of one directory

A search that starts from any path of a directory is set beside one that starts from an absolute
path of it. What the two come across is spelled in different ways, but it leads to the same places,
so their tours are in step (`map_directory?_tour_congr`) and they find the same manifests
(`map_manifest_discover`).

A relative search can lose the step at one kind of declaration only, one that `Vanishes`. It points
to the working directory, and nothing is left of its path. `Meets` lists the declarations that a
search can come across.
-/

namespace Polybuild

/-- A declaration has a path, but nothing is left of it in the directory of the declaration. -/
def Declaration.Vanishes (declaration : Declaration) (base : Path) : Prop :=
  Text.blank declaration.src = false ∧ (base.join declaration.src).normalize.text = ""

theorem Declaration.not_vanishes_of_isAbsolute {declaration : Declaration} {base : Path}
    (h : base.isAbsolute = true) : ¬declaration.Vanishes base := fun hvanishes =>
  Path.ne_empty_of_isAbsolute (Path.isAbsolute_normalize (Path.isAbsolute_join h declaration.src))
    hvanishes.2

/-! ## Catalogs of modules with the same manifests -/

namespace Catalog

/-- Which modules a catalog keeps is told from their manifests. -/
theorem map_manifest_foldl_insert {ms ns : List Module} {c c' : Catalog}
    (hc : c.modules.map (·.manifest) = c'.modules.map (·.manifest))
    (h : ms.map (·.manifest) = ns.map (·.manifest)) :
    (ms.foldl insert c).modules.map (·.manifest) =
      (ns.foldl insert c').modules.map (·.manifest) := by
  induction ms generalizing ns c c' with
  | nil =>
      obtain rfl : ns = [] := by simpa using h.symm
      exact hc
  | cons m ms ih =>
      obtain ⟨n, ns, rfl, hmanifest, hrest⟩ := List.map_eq_cons_iff.1 h.symm
      have htaken : c.contains m.name = c'.contains n.name := by
        rw [Bool.eq_iff_iff, contains_iff_mem_names, contains_iff_mem_names,
          Module.name_eq_of_manifest hmanifest.symm, names, names, Module.map_name_congr hc]
      rw [List.foldl_cons, List.foldl_cons]
      refine ih ?_ hrest.symm
      rw [modules_insert, modules_insert, htaken]
      split
      · exact hc
      · rw [List.map_append, List.map_append, hc, List.map_singleton, List.map_singleton,
          hmanifest]

end Catalog

namespace Disk

variable {d : Disk} {base p q : Path} {l : Location} {declarations : List Declaration}
  {ps qs : List Path} {seen : List Location}

/-! ## Modules in step -/

/-- The manifest of the module in a directory is told from the place of the directory. -/
theorem map_manifest_module?_congr (h : d.directory? p = d.directory? q) :
    (d.module? p).map (·.manifest) = (d.module? q).map (·.manifest) := by
  have hplace : ∀ {dir : Path} {m : Module}, d.module? dir = some m →
      ∃ l, d.directory? dir = some l := by
    intro dir m hm
    obtain ⟨l, hlocate, hl⟩ := isDirectory_iff.1 (module?_eq_some_iff.1 hm).1
    exact ⟨l, directory?_eq_some_iff.2 ⟨hlocate, hl⟩⟩
  cases hp : d.module? p with
  | some m =>
      obtain ⟨l, hl⟩ := hplace hp
      obtain ⟨again, hagain, hmanifest, -⟩ := exists_module? hl (h ▸ hl) hp
      simp [hagain, hmanifest]
  | none =>
      cases hq : d.module? q with
      | none => rfl
      | some m =>
          obtain ⟨l, hl⟩ := hplace hq
          simp [module?_of_none (h.trans hl) hl hp] at hq

theorem map_manifest_filterMap_module? (h : ps.map d.directory? = qs.map d.directory?) :
    (ps.filterMap d.module?).map (·.manifest) = (qs.filterMap d.module?).map (·.manifest) := by
  rw [List.map_filterMap, List.map_filterMap]
  induction ps generalizing qs with
  | nil =>
      obtain rfl : qs = [] := by simpa using h.symm
      rfl
  | cons p ps ih =>
      obtain ⟨q, qs, rfl, hplace, hrest⟩ := List.map_eq_cons_iff.1 h.symm
      rw [List.filterMap_cons, List.filterMap_cons, map_manifest_module?_congr hplace,
        ih hrest.symm]

/-! ## Declarations in step -/

/-- From two paths of one directory, of which one is absolute, declarations that do not vanish
point to the same places in the same order. -/
theorem map_directory?_declaredBy (hwork : d.Moored) (habs : q.isAbsolute = true)
    (htarget : d.target p = d.target q)
    (hkept : ∀ declaration ∈ declarations, ¬declaration.Vanishes p) :
    (d.declaredBy p declarations).map d.directory? =
      (d.declaredBy q declarations).map d.directory? := by
  rw [declaredBy, declaredBy, List.map_flatMap, List.map_flatMap]
  refine List.flatMap_congr fun declaration hmem => ?_
  by_cases hblank : Text.blank declaration.src = true
  · simp [declared, hblank]
  · have hp : (p.join declaration.src).normalize.text ≠ "" := fun hempty =>
      hkept declaration hmem ⟨Bool.eq_false_iff.2 hblank, hempty⟩
    have hq : (q.join declaration.src).normalize.text ≠ "" :=
      Path.ne_empty_of_isAbsolute (Path.isAbsolute_normalize (Path.isAbsolute_join habs _))
    exact map_directory?_declared_of_place
      (hwork.directory?_normalize_congr hp hq (target_join_congr htarget _))

/-- The module in a directory points to the same places, whichever path it is found by, if its
declarations do not vanish. -/
theorem map_directory?_targets (hwork : d.Moored) (habs : q.isAbsolute = true)
    (hp : d.directory? p = some l) (hq : d.directory? q = some l)
    (hkept : ∀ m, d.module? p = some m →
      ∀ declaration ∈ m.manifest.modules, ¬declaration.Vanishes m.path) :
    (d.targets p).map d.directory? = (d.targets q).map d.directory? := by
  unfold targets
  cases hm : d.module? p with
  | none => rw [module?_of_none hp hq hm]
  | some m =>
      obtain ⟨again, hagain, hmanifest, hpath⟩ := exists_module? hp hq hm
      have htarget : d.target m.path = d.target again.path := by
        rw [(module?_eq_some_iff.1 hm).2.2, hpath, target_normalize, target_normalize,
          ← eq_target_of_locate (directory?_eq_some_iff.1 hp).1,
          ← eq_target_of_locate (directory?_eq_some_iff.1 hq).1]
      rw [hagain]
      simp only [hmanifest]
      exact map_directory?_declaredBy hwork (hpath ▸ Path.isAbsolute_normalize habs) htarget
        (hkept m hm)

/-! ## Tours in step -/

/-- The declarations that a search can come across, each in its directory. -/
inductive Meets (d : Disk) (base : Path) (declarations : List Declaration) :
    Path → Declaration → Prop
  | first {declaration : Declaration} (h : declaration ∈ declarations) :
      Meets d base declarations base declaration
  | nested {dir p : Path} {declaration next : Declaration} {m : Module}
      (hmet : Meets d base declarations dir declaration) (hp : p ∈ d.declared dir declaration)
      (hm : d.module? p = some m) (hnext : next ∈ m.manifest.modules) :
      Meets d base declarations m.path next

/-- A path that a declaration points to which the search can come across. -/
def Pointed (d : Disk) (base : Path) (declarations : List Declaration) (p : Path) : Prop :=
  ∃ dir declaration, d.Meets base declarations dir declaration ∧ p ∈ d.declared dir declaration

theorem pointed_of_mem_declaredBy (h : p ∈ d.declaredBy base declarations) :
    d.Pointed base declarations p := by
  obtain ⟨declaration, hmem, hp⟩ := List.mem_flatMap.1 h
  exact ⟨base, declaration, .first hmem, hp⟩

theorem Pointed.meets (h : d.Pointed base declarations p) {m : Module} (hm : d.module? p = some m)
    {declaration : Declaration} (hmem : declaration ∈ m.manifest.modules) :
    d.Meets base declarations m.path declaration := by
  obtain ⟨dir, pointing, hmet, hp⟩ := h
  exact .nested hmet hp hm hmem

theorem Pointed.of_mem_targets (h : d.Pointed base declarations p) (hq : q ∈ d.targets p) :
    d.Pointed base declarations q := by
  unfold targets at hq
  split at hq
  · simp at hq
  · rename_i m hm
    obtain ⟨declaration, hmem, hq⟩ := List.mem_flatMap.1 hq
    exact ⟨m.path, declaration, h.meets hm hmem, hq⟩

/-- Two tours stay in step when one of them is absolute and no declaration vanishes on the other
one. -/
theorem map_directory?_tour_congr (hwork : d.Moored)
    (hkept : ∀ dir declaration, d.Meets base declarations dir declaration →
      ¬declaration.Vanishes dir)
    (hps : ∀ p ∈ ps, d.Pointed base declarations p) (hqs : ∀ q ∈ qs, q.isAbsolute = true)
    (h : ps.map d.directory? = qs.map d.directory?) :
    (d.tour ps seen).map d.directory? = (d.tour qs seen).map d.directory? := by
  fun_induction d.tour ps seen generalizing qs with
  | case1 seen =>
      obtain rfl : qs = [] := by simpa using h.symm
      simp
  | case2 p rest seen hp ih =>
      obtain ⟨q, qs, rfl, hplace, hrest⟩ := List.map_eq_cons_iff.1 h.symm
      rw [List.forall_mem_cons] at hps hqs
      rw [tour_cons_of_none (hplace.trans hp)]
      exact ih hps.2 hqs.2 hrest.symm
  | case3 p rest seen l hp hmem ih =>
      obtain ⟨q, qs, rfl, hplace, hrest⟩ := List.map_eq_cons_iff.1 h.symm
      rw [List.forall_mem_cons] at hps hqs
      rw [tour_cons_of_seen (hplace.trans hp) hmem]
      exact ih hps.2 hqs.2 hrest.symm
  | case4 p rest seen l hp hmem ih =>
      obtain ⟨q, qs, rfl, hplace, hrest⟩ := List.map_eq_cons_iff.1 h.symm
      rw [List.forall_mem_cons] at hps hqs
      have hq := hplace.trans hp
      have htargets : (d.targets p).map d.directory? = (d.targets q).map d.directory? :=
        map_directory?_targets hwork hqs.1 hp hq fun m hm declaration hdeclared =>
          hkept m.path declaration (hps.1.meets hm hdeclared)
      rw [tour_cons_of_new hq (Bool.eq_false_iff.2 hmem), List.map_cons, List.map_cons, hplace]
      congr 1
      refine ih ?_ ?_ ?_
      · exact List.forall_mem_append.2 ⟨fun p' hp' => hps.1.of_mem_targets hp', hps.2⟩
      · exact List.forall_mem_append.2
          ⟨fun q' hq' => isAbsolute_of_mem_targets hqs.1 hq', hqs.2⟩
      · rw [List.map_append, List.map_append, htargets, hrest]

/-- A search finds modules with the same manifests in the same order from two paths of one
directory, if one of them is absolute and no declaration vanishes on the way from the other. -/
theorem map_manifest_discover (hwork : d.Moored) (habs : q.isAbsolute = true)
    (htarget : d.target p = d.target q)
    (hkept : ∀ dir declaration, d.Meets p declarations dir declaration →
      ¬declaration.Vanishes dir) :
    (d.discover p declarations).modules.map (·.manifest) =
      (d.discover q declarations).modules.map (·.manifest) := by
  have hdeclared := map_directory?_declaredBy hwork habs htarget fun declaration hmem =>
    hkept p declaration (.first hmem)
  have htour : (d.tour (d.declaredBy p declarations) []).map d.directory? =
      (d.tour (d.declaredBy q declarations) []).map d.directory? :=
    map_directory?_tour_congr hwork hkept (fun _ => pointed_of_mem_declaredBy)
      (fun _ => isAbsolute_of_mem_declaredBy habs) hdeclared
  rw [discover_eq_ofModules, discover_eq_ofModules]
  exact Catalog.map_manifest_foldl_insert rfl (map_manifest_filterMap_module? htour)

/-- On the way from an absolute path no declaration vanishes. -/
theorem Meets.not_vanishes {dir : Path} {declaration : Declaration}
    (h : d.Meets base declarations dir declaration) (hbase : base.isAbsolute = true) :
    ¬declaration.Vanishes dir := by
  have hdir : dir.isAbsolute = true := by
    induction h with
    | first => exact hbase
    | nested hmet hp hm hnext ih =>
        rw [(module?_eq_some_iff.1 hm).2.2]
        exact Path.isAbsolute_normalize (isAbsolute_of_mem_declared ih hp)
  exact Declaration.not_vanishes_of_isAbsolute hdir

/-- A declaration that vanishes points to the working directory, and leads nowhere. -/
theorem places_declared_of_vanishes {declaration : Declaration} (h : declaration.Vanishes base) :
    d.target (base.join declaration.src) = d.workDir ∧
      d.places (d.declared base declaration) = [] := by
  refine ⟨target_of_normalize_empty h.2, ?_⟩
  have hnowhere : d.directory? (base.join declaration.src).normalize = none :=
    directory?_of_empty h.2
  simp [declared, h.1, hnowhere, places]

end Disk

end Polybuild
