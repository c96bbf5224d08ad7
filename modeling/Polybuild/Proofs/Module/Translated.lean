import Polybuild.Proofs.Module.Renamed

/-!
# Sources that share a translation

A translation keeps the stem of its source and has the extension of the language. So translating a
name again changes nothing (`rewriteExtension_rewriteExtension`), and two names become one just when
they are one or `Collapse`: they have one stem, and the extensions of both are written as that of
the language. Below a destination root different names are different files, so this also says which
sources are translated into one file.
-/

namespace Polybuild

variable {path path' stem extension target lang : String}

/-- A text is cut where it is put together, when the extension has no dot and no slash. -/
theorem cutExtension?_append {front : List Char} {c : Char} (hstem : stem.toList = front ++ [c, '.'])
    (hc : c ≠ '/') (hext : ∀ x ∈ extension.toList, x ≠ '.' ∧ x ≠ '/') :
    cutExtension? (stem ++ extension) = some (stem, extension) := by
  have hreversed : (stem ++ extension).toList.reverse =
      extension.toList.reverse ++ '.' :: c :: front.reverse := by
    simp [hstem]
  have htake : (extension.toList.reverse ++ '.' :: c :: front.reverse).takeWhile
      (fun x => x ≠ '.' && x ≠ '/') = extension.toList.reverse := by
    rw [List.takeWhile_append_of_pos, List.takeWhile_cons_of_neg (by simp), List.append_nil]
    intro x hx
    simpa using hext x (List.mem_reverse.1 hx)
  have hkept : String.ofList ('.' :: c :: front.reverse).reverse = stem := by
    apply String.toList_inj.1
    simp [hstem]
  unfold cutExtension?
  simp only [hreversed, htake, List.drop_left, hc, ↓reduceIte, hkept, List.reverse_reverse,
    String.ofList_toList]

/-- The stem of a path text can have another extension behind it. -/
theorem cutExtension?_replaced (hcut : cutExtension? path = some (stem, extension))
    (htarget : ∀ x ∈ target.toList, x ≠ '.' ∧ x ≠ '/') :
    cutExtension? (stem ++ target) = some (stem, target) := by
  obtain ⟨-, -, front, c, hstem, hc⟩ := cutExtension?_eq_some hcut
  exact cutExtension?_append hstem hc htarget

/-- The extensions of languages have no dot and no slash. -/
theorem ne_dot_of_mem_extension (h : Language.extension? lang = some target) :
    ∀ x ∈ target.toList, x ≠ '.' ∧ x ≠ '/' := by
  have hknown : ∀ language ∈ Language.known, ∀ x ∈ language.extension.toList,
      x ≠ '.' ∧ x ≠ '/' := by
    simp [Language.known, Language.dialect]
  obtain ⟨language, hfind, rfl⟩ := Option.map_eq_some_iff.1 h
  exact hknown language (List.mem_of_find?_eq_some hfind)

/-! ## Names of translations -/

/-- A name is rewritten when its extension is one of the dialect, or that of the language, which
stays. -/
theorem rewriteExtension_of_mem (htarget : Language.extension? lang = some target)
    (hcut : cutExtension? path = some (stem, extension))
    (hext : extension ∈ target :: Language.dialectExtensions) :
    rewriteExtension path lang = stem ++ target := by
  unfold rewriteExtension
  simp only [htarget, hcut]
  split
  · rfl
  · rename_i hother
    obtain rfl : extension = target := (List.mem_cons.1 hext).resolve_right hother
    exact (cutExtension?_eq_some hcut).1

/-- Other names stay as they are. -/
theorem rewriteExtension_cases (path lang : String) :
    rewriteExtension path lang = path ∨
      ∃ target stem extension, Language.extension? lang = some target ∧
        cutExtension? path = some (stem, extension) ∧
        extension ∈ Language.dialectExtensions ∧ rewriteExtension path lang = stem ++ target := by
  cases htarget : Language.extension? lang with
  | none => exact Or.inl (rewriteExtension_of_unknown htarget path)
  | some target =>
      cases hcut : cutExtension? path with
      | none => simp [rewriteExtension, hcut]
      | some cut =>
          obtain ⟨stem, extension⟩ := cut
          by_cases hdialect : extension ∈ Language.dialectExtensions
          · exact Or.inr ⟨target, stem, extension, rfl, rfl, hdialect,
              rewriteExtension_of_mem htarget hcut (List.mem_cons_of_mem _ hdialect)⟩
          · simp [rewriteExtension, htarget, hcut, hdialect]

theorem rewriteExtension_rewriteExtension (path lang : String) :
    rewriteExtension (rewriteExtension path lang) lang = rewriteExtension path lang := by
  rcases rewriteExtension_cases path lang with hstay | ⟨target, stem, ext, htarget, hcut, -, hnew⟩
  · rw [hstay, hstay]
  · rw [hnew]
    exact rewriteExtension_of_mem htarget
      (cutExtension?_replaced hcut (ne_dot_of_mem_extension htarget)) List.mem_cons_self

/-- Two path texts are equal up to their extensions, and both extensions are written as that of a
language. -/
def Collapse (lang path path' : String) : Prop :=
  ∃ target stem extension extension', Language.extension? lang = some target ∧
    cutExtension? path = some (stem, extension) ∧ cutExtension? path' = some (stem, extension') ∧
    extension ∈ target :: Language.dialectExtensions ∧
    extension' ∈ target :: Language.dialectExtensions

theorem Collapse.symm (h : Collapse lang path path') : Collapse lang path' path := by
  obtain ⟨target, stem, ext, ext', htarget, hcut, hcut', hext, hext'⟩ := h
  exact ⟨target, stem, ext', ext, htarget, hcut', hcut, hext', hext⟩

/-- A name that was rewritten into one that stays as it is collapses with it. -/
theorem collapse_of_rewriteExtension_eq (hstay : rewriteExtension path' lang = path')
    (h : rewriteExtension path lang = rewriteExtension path' lang) :
    path = path' ∨ Collapse lang path path' := by
  rcases rewriteExtension_cases path lang with
    hsame | ⟨target, stem, ext, htarget, hcut, hdialect, hnew⟩
  · exact Or.inl (hsame.symm.trans (h.trans hstay))
  · obtain rfl : path' = stem ++ target := hstay.symm.trans (h.symm.trans hnew)
    have hcut' := cutExtension?_replaced hcut (ne_dot_of_mem_extension htarget)
    exact Or.inr ⟨target, stem, ext, target, htarget, hcut, hcut',
      List.mem_cons_of_mem _ hdialect, List.mem_cons_self⟩

theorem rewriteExtension_eq_iff :
    rewriteExtension path lang = rewriteExtension path' lang ↔
      path = path' ∨ Collapse lang path path' := by
  constructor
  · intro h
    rcases rewriteExtension_cases path' lang with
      hstay | ⟨target, stem', ext', htarget, hcut', hdialect', hnew'⟩
    · exact collapse_of_rewriteExtension_eq hstay h
    · rcases rewriteExtension_cases path lang with
        hstay | ⟨target', stem, ext, htarget', hcut, hdialect, hnew⟩
      · exact (collapse_of_rewriteExtension_eq hstay h.symm).imp Eq.symm Collapse.symm
      · obtain rfl := Option.some.inj (htarget.symm.trans htarget')
        obtain rfl : stem = stem' := by
          rw [hnew, hnew'] at h
          apply String.toList_inj.1
          simpa using congrArg String.toList h
        exact Or.inr ⟨target, stem, ext, ext', htarget, hcut, hcut',
          List.mem_cons_of_mem _ hdialect, List.mem_cons_of_mem _ hdialect'⟩
  · rintro (rfl | ⟨target, stem, ext, ext', htarget, hcut, hcut', hext, hext'⟩)
    · rfl
    · rw [rewriteExtension_of_mem htarget hcut hext, rewriteExtension_of_mem htarget hcut' hext']

/-! ## Files of translations -/

namespace Module

variable {m : Module} {root p p' : Path} {relative relative' : String}

theorem Canonical.rewriteExtension (h : Canonical relative) (lang : String) :
    Canonical (rewriteExtension relative lang) := by
  obtain ⟨names, hne, hnames, rfl⟩ := h
  obtain ⟨front, last, rfl⟩ := (List.eq_nil_or_concat' names).resolve_left hne
  obtain ⟨name, hname, hrenamed⟩ := exists_rewriteExtension front (hnames last (by simp)) lang
  refine ⟨front ++ [name], by simp, fun s hs => ?_, hrenamed⟩
  rcases List.mem_append.1 hs with hs | hs
  · exact hnames s (List.mem_append_left _ hs)
  · rwa [List.mem_singleton.1 hs]

/-- A canonical relative path leads down from a directory by its names. -/
theorem Canonical.exists_beneath? (h : Canonical relative) (hroot : root.IsNormal) :
    ∃ names : List String, relative = relativeText (names.map .name) ∧
      (Path.ofComponents (root.components ++ names.map .name)).components =
        root.components ++ names.map .name ∧
      root.beneath? relative = some (Path.ofComponents (root.components ++ names.map .name)) := by
  obtain ⟨names, hne, hnames, rfl⟩ := h
  exact ⟨names, rfl, Path.components_ofComponents (hroot.normal.append_names hnames),
    Path.beneath?_of_segments hroot hne hnames (segments_names hnames)⟩

/-- Below a destination root every canonical relative path has a translation, and two of them have
one translation just when they are equal or collapse in the language. A name that was rewritten
once stays as it is. -/
theorem destFile?_eq_iff_collapse (hroot : m.destRoot? lang = some root) :
    (∀ relative relative', Canonical relative → Canonical relative' →
      ∃ p p', m.destFile? relative lang = some p ∧ m.destFile? relative' lang = some p' ∧
        (p.same p' = true ↔ p = p') ∧
        (p = p' ↔ relative = relative' ∨ Collapse lang relative relative')) ∧
    ∀ path lang, rewriteExtension (rewriteExtension path lang) lang =
      rewriteExtension path lang := by
  refine ⟨fun relative relative' hcanonical hcanonical' => ?_, rewriteExtension_rewriteExtension⟩
  have hnormal := isNormal_of_destRoot? hroot
  obtain ⟨names, hnames, hp, hbeneath⟩ := (hcanonical.rewriteExtension lang).exists_beneath? hnormal
  obtain ⟨names', hnames', hp', hbeneath'⟩ :=
    (hcanonical'.rewriteExtension lang).exists_beneath? hnormal
  refine ⟨_, _, destFile?_eq_some_iff.2 ⟨root, hroot, hbeneath⟩,
    destFile?_eq_some_iff.2 ⟨root, hroot, hbeneath'⟩, ?_, ?_⟩
  · rw [Path.same, beq_iff_eq, hp, hp']
    exact ⟨fun h => congrArg Path.ofComponents h, fun h => by rw [← hp, h, hp']⟩
  · rw [← rewriteExtension_eq_iff, hnames, hnames']
    constructor
    · intro h
      have hcomponents := hp.symm.trans ((congrArg Path.components h).trans hp')
      rw [List.append_cancel_left hcomponents]
    · intro h
      have hsame : some (Path.ofComponents (root.components ++ names.map .name)) =
          some (Path.ofComponents (root.components ++ names'.map .name)) := by
        rw [← hbeneath, ← hbeneath', hnames, hnames', h]
      exact Option.some.inj hsame

end Module

/-! ## Hidden files -/

namespace Dotted

def m : Module :=
  (Module.ofManifest? ⟨"/m"⟩ { ModuleManifest.empty with
    name := some "M", src := some "src", dest := Keyed.empty.insert "php" "out" }).get (by decide)

theorem canonical_of_split {relative : String} (last : String) (hlast : Path.IsName last)
    (h : Text.split '/' relative = ["", "a.bay", last]) : Module.Canonical relative :=
  Module.canonical_iff_split.2 ⟨["a.bay", last], by simp, h,
    List.forall_mem_cons.2 ⟨by simp [Path.IsName], by simpa using hlast⟩⟩

/-- A dot at the front of a name does not make an extension, so hidden files keep their names. -/
theorem destFile?_dotted :
    m.destFile? "/a.bay/.x.ui" "php" = m.destFile? "/a.bay/.x.php" "php" ∧
      m.destFile? "/a.bay/.ui" "php" ≠ m.destFile? "/a.bay/.php" "php" := by
  have hroot : m.destRoot? "php" = some ⟨"/m/out"⟩ := by decide
  obtain ⟨hfiles, -⟩ := Module.destFile?_eq_iff_collapse hroot
  constructor
  · obtain ⟨p, p', hp, hp', -, hsame⟩ := hfiles "/a.bay/.x.ui" "/a.bay/.x.php"
      (canonical_of_split ".x.ui" (by simp [Path.IsName]) (by decide))
      (canonical_of_split ".x.php" (by simp [Path.IsName]) (by decide))
    have hcollapse : Collapse "php" "/a.bay/.x.ui" "/a.bay/.x.php" :=
      ⟨"php", "/a.bay/.x.", "ui", "php", by decide⟩
    rw [hp, hp', hsame.2 (Or.inr hcollapse)]
  · obtain ⟨p, p', hp, hp', -, hsame⟩ := hfiles "/a.bay/.ui" "/a.bay/.php"
      (canonical_of_split ".ui" (by simp [Path.IsName]) (by decide))
      (canonical_of_split ".php" (by simp [Path.IsName]) (by decide))
    have hcut : cutExtension? "/a.bay/.ui" = none := by decide
    rw [hp, hp', Ne, Option.some.injEq, hsame]
    rintro (heq | ⟨target, stem, ext, ext', -, hno, -⟩)
    · exact absurd heq (by decide)
    · simp [hcut] at hno

end Dotted

end Polybuild
