import Polybuild.Catalog.Discover
import Polybuild.Proofs.Disk.Reading
import Polybuild.Proofs.Disk.Spot
import Polybuild.Proofs.Module.Found
import Polybuild.Proofs.Path.Absolute

/-!
# Spellings of a directory

An absolute path can be spelled in many ways: with dots, with slashes at its end, or with two dots
right behind the root. Where it leads decides all the rest. What is joined to it leads to the same
place (`locate_join`), a normal path leads where its names lead (`locate_rooted`), the manifest of
a module is the same (`exists_module?`), and so are the places that a declaration points to
(`map_directory?_declared`).
-/

namespace Polybuild

namespace Disk

open Polybuild.Path (IsName rooted)

variable {d : Disk} {p q : Path} {l m : Location} {names : List String} {ups : Nat} {text : String}

/-! ## Where a path leads -/

theorem unusable?_eq_none_iff :
    unusable? p = none ↔ '\x00' ∉ p.text.toList ∧ p.text ≠ "" := by
  unfold unusable?
  by_cases hnul : '\x00' ∈ p.text.toList
  · simp [hnul]
  · by_cases hempty : p.text = "" <;> simp [hnul, hempty]

theorem directory?_eq_some_iff :
    d.directory? p = some l ↔ d.locate p = .ok l ∧ d.isDirectoryAt l = true := by
  unfold directory?
  cases d.locate p with
  | error fault => simp
  | ok m =>
      by_cases hdir : d.isDirectoryAt m = true
      · simp only [hdir, ↓reduceIte, Option.some.injEq, Except.ok.injEq]
        exact ⟨fun h => ⟨h, h ▸ hdir⟩, fun h => h.1⟩
      · simp only [hdir, Bool.false_eq_true, ↓reduceIte, reduceCtorEq, Except.ok.injEq, false_iff]
        rintro ⟨rfl, hm⟩
        exact hdir hm

theorem directory?_congr (h : d.locate p = d.locate q) : d.directory? p = d.directory? q := by
  simp only [directory?, h]

theorem start_of_isAbsolute (h : p.isAbsolute = true) : d.start p = [] := by
  simp [start, h]

theorem start_join (hp : p.text ≠ "") (htext : (⟨text⟩ : Path).isAbsolute = false) :
    d.start (p.join text) = d.start p := by
  simp only [start, Path.isAbsolute_join_eq hp htext]

/-- What is joined to the path of a directory is followed from there. -/
theorem locate_join (hp : d.directory? p = some l) (htext : (⟨text⟩ : Path).isAbsolute = false) :
    d.locate (p.join text) =
      if '\x00' ∈ text.toList then .error .nulInName else d.follow l (Text.split '/' text) := by
  obtain ⟨hlocate, hdir⟩ := directory?_eq_some_iff.1 hp
  obtain ⟨hu, hfollow⟩ := locate_eq_ok_iff.1 hlocate
  obtain ⟨hnul, hne⟩ := unusable?_eq_none_iff.1 hu
  obtain ⟨front, hjoin, hfront⟩ := Path.exists_front_of_join hne htext
  have hto : d.follow (d.start p) front = .ok l := by
    rcases hfront with hfront | hfront
    · rwa [hfront] at hfollow
    · rw [hfront, follow_append] at hfollow
      obtain ⟨m, hm, hlast⟩ := bind_eq_ok_iff.1 hfollow
      obtain rfl : l = m := by simpa [Location.further] using eq_foldl_of_follow hlast
      exact hm
  have hmem : '\x00' ∈ (p.join text).text.toList ↔ '\x00' ∈ text.toList := by
    unfold Path.join
    rw [htext]
    by_cases hslash : p.text.toList.getLast? = some '/'
    · simp [hne, hslash, hnul]
    · simp [hne, hslash, hnul]
  by_cases htextnul : '\x00' ∈ text.toList
  · simp [locate, unusable?, hmem, htextnul]
  · have hused : unusable? (p.join text) = none :=
      unusable?_eq_none_iff.2 ⟨fun h => htextnul (hmem.1 h), Path.join_ne_empty hne text⟩
    simp only [locate, hused, htextnul, ↓reduceIte]
    rw [start_join hne htext, hjoin, follow_append, hto]
    rfl

theorem target_of_empty (h : p.text = "") : d.target p = d.workDir := by
  simp [target, start, Path.isAbsolute, h, Text.split, Location.further]

theorem target_join (htext : (⟨text⟩ : Path).isAbsolute = false) :
    d.target (p.join text) = (Text.split '/' text).foldl Location.further (d.target p) := by
  by_cases hempty : p.text = ""
  · have hjoin : p.join text = ⟨text⟩ := by simp [Path.join, hempty]
    rw [hjoin, target_of_empty hempty, target, start, htext]
    rfl
  · obtain ⟨front, hjoin, hfront⟩ := Path.exists_front_of_join hempty htext
    have hto : (Text.split '/' p.text).foldl Location.further (d.start p) =
        front.foldl Location.further (d.start p) := by
      rcases hfront with hfront | hfront
      · rw [hfront]
      · simp [hfront, Location.further]
    rw [target, target, start_join hempty htext, hjoin, List.foldl_append, hto]

/-- A normal path can lead where the path leads that it is made of. -/
theorem target_normalize (d : Disk) (p : Path) : d.target p.normalize = d.target p := by
  have hpush : ∀ (stack : List Component) (c : Component) (l : Location),
      (Path.pushNormal stack c).reverse.foldl Location.through l =
        (stack.reverse.foldl Location.through l).through c := by
    intro stack c l
    unfold Path.pushNormal
    split
    · rfl
    · split <;> simp [Location.through]
    · simp
  have hfold : ∀ (cs stack : List Component) (l : Location),
      (cs.foldl Path.pushNormal stack).reverse.foldl Location.through l =
        cs.foldl Location.through (stack.reverse.foldl Location.through l) := by
    intro cs
    induction cs with
    | nil => exact fun _ _ => rfl
    | cons c cs ih =>
        intro stack l
        rw [List.foldl_cons, List.foldl_cons, ih, hpush]
  rw [target_eq_foldl, target_eq_foldl, Path.components_normalize, Path.normalComponents, hfold]
  rfl

/-! ## Normal absolute paths -/

theorem split_rooted (hnames : ∀ s ∈ names, IsName s ∧ '/' ∉ s.toList) :
    Text.split '/' (rooted ups names).text =
      "" :: if List.replicate ups ".." ++ names = [] then [""]
        else List.replicate ups ".." ++ names := by
  rw [rooted, Text.split_slash_append]
  congr 1
  split
  · rename_i hempty
    rw [hempty]
    rfl
  · rename_i hne
    apply Text.split_join hne
    intro s hs
    rcases List.mem_append.1 hs with hs | hs
    · simp [List.eq_of_mem_replicate hs]
    · exact (hnames s hs).2

theorem isAbsolute_rooted (ups : Nat) (names : List String) :
    (rooted ups names).isAbsolute = true := by
  simp [rooted, Path.isAbsolute]

theorem nul_mem_rooted_iff :
    '\x00' ∈ (rooted ups names).text.toList ↔ ∃ s ∈ names, '\x00' ∈ s.toList := by
  rw [rooted, String.toList_append, List.mem_append, Text.toList_join,
    Text.mem_joinWith (by decide)]
  simp [List.mem_replicate, or_and_right, exists_or]

/-- Two dots go up from a directory, and stay at the root. -/
theorem follow_replicate_up (hl : d.isDirectoryAt l = true) (ups : Nat) :
    d.follow l (List.replicate ups ".." ++ names) = d.follow (l.drop ups) names := by
  induction ups generalizing l with
  | zero => rfl
  | succ ups ih =>
      rw [List.replicate_succ, List.cons_append, follow, step_up hl, ← List.drop_tail]
      exact ih (isDirectoryAt_tail hl)

/-- A normal absolute path leads where its names lead from the root. -/
theorem locate_rooted (hnames : ∀ s ∈ names, IsName s ∧ '/' ∉ s.toList) :
    d.locate (rooted ups names) =
      if ∃ s ∈ names, '\x00' ∈ s.toList then .error .nulInName else d.follow [] names := by
  have hblank : d.step [] "" = .ok [] := step_blank rfl
  have hfollow : d.follow [] (Text.split '/' (rooted ups names).text) = d.follow [] names := by
    rw [split_rooted hnames, follow, hblank]
    split
    · rename_i hempty
      obtain ⟨-, rfl⟩ := List.append_eq_nil_iff.1 hempty
      simp [Except.bind, follow, hblank]
    · have hups : d.follow [] (List.replicate ups ".." ++ names) =
          d.follow (([] : Location).drop ups) names := follow_replicate_up rfl ups
      rw [List.drop_nil] at hups
      exact hups
  by_cases hnul : ∃ s ∈ names, '\x00' ∈ s.toList
  · rw [if_pos hnul, locate, unusable?]
    simp [nul_mem_rooted_iff.2 hnul]
  · have hused : unusable? (rooted ups names) = none :=
      unusable?_eq_none_iff.2 ⟨fun h => hnul (nul_mem_rooted_iff.1 h),
        Path.ne_empty_of_isAbsolute (isAbsolute_rooted ups names)⟩
    simp only [locate, hused, if_neg hnul]
    rw [start_of_isAbsolute (isAbsolute_rooted ups names), hfollow]

theorem target_rooted (hnames : ∀ s ∈ names, IsName s ∧ '/' ∉ s.toList) :
    d.target (rooted ups names) = names.reverse := by
  have hups : (List.replicate ups "..").foldl Location.further [] = [] := by
    induction ups with
    | zero => rfl
    | succ ups ih => simpa [List.replicate_succ, Location.further] using ih
  have hdown := foldl_further_of_isName (fun s hs => (hnames s hs).1) []
  rw [target, start_of_isAbsolute (isAbsolute_rooted ups names), split_rooted hnames,
    List.foldl_cons]
  split
  · rename_i hempty
    obtain ⟨-, rfl⟩ := List.append_eq_nil_iff.1 hempty
    simp [Location.further]
  · simp [Location.further, hups, hdown]

/-- Normal absolute paths with one target lead to one place. -/
theorem directory?_normalize_congr (hp : p.isAbsolute = true) (hq : q.isAbsolute = true)
    (h : d.target p = d.target q) : d.directory? p.normalize = d.directory? q.normalize := by
  obtain ⟨ups, names, hpath, hnames⟩ := Path.exists_rooted_of_isAbsolute hp
  obtain ⟨ups', names', hpath', hnames'⟩ := Path.exists_rooted_of_isAbsolute hq
  have hsame : names = names' := by
    have htarget : d.target p = names.reverse := by
      rw [← target_normalize, hpath, target_rooted hnames]
    have htarget' : d.target q = names'.reverse := by
      rw [← target_normalize, hpath', target_rooted hnames']
    exact List.reverse_injective (htarget.symm.trans (h.trans htarget'))
  subst hsame
  apply directory?_congr
  rw [hpath, hpath', locate_rooted hnames, locate_rooted hnames]

/-! ## The absolute path of a place -/

/-- Names that a path can be followed through. -/
def Followable (l : Location) : Prop :=
  ∀ s ∈ l, (IsName s ∧ '/' ∉ s.toList) ∧ '\x00' ∉ s.toList ∧ s.utf8ByteSize ≤ longestName

theorem followable_of_follow {pieces : List String} (h : d.follow l pieces = .ok m)
    (hpieces : ∀ s ∈ pieces, '/' ∉ s.toList ∧ '\x00' ∉ s.toList) (hl : Followable l) :
    Followable m := by
  induction pieces generalizing l with
  | nil =>
      obtain rfl : l = m := by simpa [follow] using h
      exact hl
  | cons piece rest ih =>
      rw [List.forall_mem_cons] at hpieces
      obtain ⟨next, hstep, hrest⟩ := follow_cons_eq_ok_iff.1 h
      obtain ⟨-, rfl, hname⟩ := step_eq_ok_iff.1 hstep
      refine ih hrest hpieces.2 ?_
      unfold Location.further
      split
      · exact hl
      · rename_i hstay
        split
        · exact fun s hs => hl s (List.mem_of_mem_tail hs)
        · rename_i hup
          rw [not_or] at hstay
          have hpiece : IsName piece := ⟨hstay.1, hstay.2, hup⟩
          exact List.forall_mem_cons.2
            ⟨⟨⟨hpiece, hpieces.1.1⟩, hpieces.1.2, (hname hpiece).1⟩, hl⟩

/-- Names that a path can be followed through lead to what stands below a directory. -/
theorem follow_of_followable {below base : Location} (hl : Followable (below ++ base))
    (hthere : (d.entryAt? (below ++ base)).isSome = true) :
    d.follow base below.reverse = .ok (below ++ base) := by
  induction below with
  | nil => rfl
  | cons name dir ih =>
      rw [List.cons_append, Followable, List.forall_mem_cons] at hl
      have hdir := isDirectoryAt_of_isSome_cons hthere
      have hto := ih hl.2 (isSome_entryAt?_iff.2 (Or.inl hdir))
      have hstep : d.step (dir ++ base) name = .ok (name :: (dir ++ base)) :=
        step_eq_ok_iff.2 ⟨hdir, further_of_isName hl.1.1.1, fun _ => ⟨hl.1.2.2, hthere⟩⟩
      rw [List.reverse_cons, follow_append, hto]
      simp [Except.bind, follow, hstep]

/-- A path that can be used has no piece with a character that no name can have. -/
theorem not_nul_of_mem_split {s : String} (hu : unusable? p = none)
    (hs : s ∈ Text.split '/' p.text) : '\x00' ∉ s.toList := by
  intro hnul
  refine (unusable?_eq_none_iff.1 hu).1 ?_
  obtain ⟨piece, hpiece, rfl⟩ := List.mem_map.1 hs
  rw [← Text.joinWith_pieces '/' p.text.toList, Text.mem_joinWith (by decide)]
  exact ⟨piece, hpiece, by simpa using hnul⟩

theorem followable_of_locate (h : d.locate p = .ok l) (hstart : Followable (d.start p)) :
    Followable l := by
  obtain ⟨hu, hfollow⟩ := locate_eq_ok_iff.1 h
  exact followable_of_follow hfollow
    (fun s hs => ⟨Path.not_mem_of_mem_split hs, not_nul_of_mem_split hu hs⟩) hstart

/-- A directory whose names can be followed is found under all normal absolute paths of it. -/
theorem directory?_rooted_of_followable (hl : Followable l) (hdir : d.isDirectoryAt l = true)
    (ups : Nat) : d.directory? (rooted ups l.reverse) = some l := by
  have hnames : ∀ s ∈ l.reverse, IsName s ∧ '/' ∉ s.toList :=
    fun s hs => (hl s (List.mem_reverse.1 hs)).1
  have hnul : ¬∃ s ∈ l.reverse, '\x00' ∈ s.toList := by
    rintro ⟨s, hs, hmem⟩
    exact (hl s (List.mem_reverse.1 hs)).2.1 hmem
  have hpath : d.locate (rooted ups l.reverse) = .ok l := by
    have hto : d.follow [] l.reverse = .ok (l ++ []) :=
      follow_of_followable (by simpa using hl)
        (by simpa using isSome_entryAt?_iff.2 (Or.inl hdir))
    rw [locate_rooted hnames, if_neg hnul, hto, List.append_nil]
  exact directory?_eq_some_iff.2 ⟨hpath, hdir⟩

/-- A directory whose names can be followed is found under its own path. -/
theorem directory?_path_of_followable (hl : Followable l) (hdir : d.isDirectoryAt l = true) :
    d.directory? l.path = some l :=
  directory?_rooted_of_followable hl hdir 0

/-- A place that an absolute path leads to is found under its own path, too. -/
theorem directory?_path (habs : p.isAbsolute = true) (hp : d.directory? p = some l) :
    d.directory? l.path = some l := by
  obtain ⟨hlocate, hdir⟩ := directory?_eq_some_iff.1 hp
  have hl := followable_of_locate hlocate (by simp [start_of_isAbsolute habs, Followable])
  exact directory?_path_of_followable hl hdir

/-- The normal form of an absolute path leads to the same directory. -/
theorem directory?_normalize_of_isAbsolute (habs : p.isAbsolute = true)
    (hp : d.directory? p = some l) : d.directory? p.normalize = some l := by
  obtain ⟨hlocate, hdir⟩ := directory?_eq_some_iff.1 hp
  have hl := followable_of_locate hlocate (by simp [start_of_isAbsolute habs, Followable])
  obtain ⟨ups, names, hrooted, hnames⟩ := Path.exists_rooted_of_isAbsolute habs
  have htarget : l = names.reverse := by
    rw [eq_target_of_locate hlocate, ← target_normalize, hrooted, target_rooted hnames]
  have hreversed := directory?_rooted_of_followable hl hdir ups
  rwa [htarget, List.reverse_reverse, ← hrooted, ← htarget] at hreversed

theorem isAbsolute_path (l : Location) : l.path.isAbsolute = true := by
  simp [Location.path, Path.isAbsolute]

/-! ## What stands in a directory -/

theorem isDirectory_of_directory? (h : d.directory? p = some l) : d.isDirectory p = true := by
  obtain ⟨hlocate, hdir⟩ := directory?_eq_some_iff.1 h
  exact isDirectory_iff.2 ⟨l, hlocate, hdir⟩

/-- What is joined to two paths of one directory leads to one place. -/
theorem locate_join_congr (hpl : d.directory? p = some l) (hql : d.directory? q = some l)
    (text : String) : d.locate (p.join text) = d.locate (q.join text) := by
  cases htext : (⟨text⟩ : Path).isAbsolute with
  | true => simp [Path.join, htext]
  | false => rw [locate_join hpl htext, locate_join hql htext]

theorem readText_congr (h : d.locate p = d.locate q) : d.readText p = d.readText q := by
  simp only [readText, read, h]

/-- The module in a directory has the same manifest, whichever path it is found by. -/
theorem exists_module? {found : Module} (hpl : d.directory? p = some l)
    (hql : d.directory? q = some l) (h : d.module? p = some found) :
    ∃ again, d.module? q = some again ∧ again.manifest = found.manifest ∧
      again.path = q.normalize := by
  obtain ⟨-, hload, -⟩ := module?_eq_some_iff.1 h
  rw [loadModule_eq_ok_iff, readText_congr (locate_join_congr hpl hql _),
    ← loadModule_eq_ok_iff] at hload
  refine ⟨{ found with path := q.normalize, normal := q.exists_normalize_eq }, ?_, rfl, rfl⟩
  exact module?_eq_some_iff.2 ⟨isDirectory_of_directory? hql, hload, rfl⟩

theorem target_join_congr (h : d.target p = d.target q) (text : String) :
    d.target (p.join text) = d.target (q.join text) := by
  cases htext : (⟨text⟩ : Path).isAbsolute with
  | true => simp [Path.join, htext]
  | false => rw [target_join htext, target_join htext, h]

/-- A declaration points to the same places in the same order from two directories, if its path
leads to the same place. -/
theorem map_directory?_declared_of_place {declaration : Declaration}
    (hplace : d.directory? (p.join declaration.src).normalize =
      d.directory? (q.join declaration.src).normalize) :
    (d.declared p declaration).map d.directory? = (d.declared q declaration).map d.directory? := by
  unfold declared
  split
  · rfl
  · dsimp only
    split
    · rw [hplace]
      cases hl : d.directory? (q.join declaration.src).normalize with
      | none => rfl
      | some l =>
          simp only [List.map_map]
          refine List.map_congr_left fun name _ => directory?_congr ?_
          exact locate_join_congr (hplace.trans hl) hl name
    · simp [hplace]

/-- From two absolute paths of one directory, a declaration points to the same places in the same
order. -/
theorem map_directory?_declared (hp : p.isAbsolute = true) (hq : q.isAbsolute = true)
    (h : d.target p = d.target q) (declaration : Declaration) :
    (d.declared p declaration).map d.directory? = (d.declared q declaration).map d.directory? :=
  map_directory?_declared_of_place (directory?_normalize_congr
    (Path.isAbsolute_join hp declaration.src) (Path.isAbsolute_join hq declaration.src)
    (target_join_congr h declaration.src))

theorem isAbsolute_of_mem_declared {base : Path} {declaration : Declaration}
    (hbase : base.isAbsolute = true) (h : p ∈ d.declared base declaration) :
    p.isAbsolute = true := by
  have hpath := Path.isAbsolute_normalize (Path.isAbsolute_join hbase declaration.src)
  unfold declared at h
  split at h
  · simp at h
  · dsimp only at h
    split at h
    · split at h
      · obtain ⟨name, -, rfl⟩ := List.mem_map.1 h
        exact Path.isAbsolute_join hpath name
      · simp at h
    · obtain rfl := List.mem_singleton.1 h
      exact hpath

end Disk

end Polybuild
