import Polybuild.Proofs.Naming.Lawful

/-!
# Files and their relative paths in a naming

A relative path is a text, and what it names is spelled. The other way, a file is shown by a
relative path. So below a source root that ends in a name, the two lead to each other as far as the
names there are texts, and no further: a name that is none is shown with marks, and the marks name
another file. What a relative path names is always a file of the first kind, because all that stands
behind the source root was spelled (`mem_segments_of_beneath?`).
-/

namespace Polybuild

open Polybuild.Path (IsName Normal ofComponents)
open Polybuild.Module (Canonical)

namespace Naming

variable {n : Naming} {m : Module} {root file : Path} {relative : String} {names : List String}

theorem isNormal_of_sourceRoot? (h : n.sourceRoot? m = some root) : root.IsNormal := by
  obtain ⟨src, -, rfl⟩ := Option.map_eq_some_iff.1 h
  exact ⟨_, rfl⟩

theorem sourceFile?_eq_some_iff :
    n.sourceFile? m relative = some file ↔
      ∃ root, n.sourceRoot? m = some root ∧ root.beneath? (n.spell relative) = some file :=
  Option.bind_eq_some_iff

theorem relativePath?_eq_some_iff :
    n.relativePath? m file = some relative ↔ ∃ root cs, n.sourceRoot? m = some root ∧ cs ≠ [] ∧
      file.normalize.components = root.components ++ cs ∧ relative = n.relativeText cs := by
  unfold relativePath?
  constructor
  · intro h
    obtain ⟨root, hroot, hbelow⟩ := Option.bind_eq_some_iff.1 h
    obtain ⟨cs, hcs, htext⟩ := Option.bind_eq_some_iff.1 hbelow
    rw [Option.ite_none_left_eq_some] at htext
    exact ⟨root, cs, hroot, htext.1, Path.below?_eq_some_iff.1 hcs, (Option.some.inj htext.2).symm⟩
  · rintro ⟨root, cs, hroot, hne, hcs, rfl⟩
    simp [hroot, Path.below?_eq_some_iff.2 hcs, hne]

theorem relativeText_names (names : List String) :
    n.relativeText (names.map .name) = Module.relativeText ((names.map n.told).map .name) := by
  simp [relativeText, Module.relativeText, Component.text, Function.comp_def]

/-- Names in texts lead to the file below the source root that they are spelled as. -/
theorem sourceFile?_of_names (h : n.Lawful) (hroot : n.sourceRoot? m = some root) (hne : names ≠ [])
    (hnames : ∀ s ∈ names, IsName s ∧ '/' ∉ s.toList) :
    n.sourceFile? m (Module.relativeText (names.map .name)) =
      some (ofComponents (root.components ++ (names.map n.spell).map .name)) := by
  refine sourceFile?_eq_some_iff.2 ⟨root, hroot, Path.beneath?_of_segments
    (isNormal_of_sourceRoot? hroot) (by simpa using hne) (h.names_spell hnames) ?_⟩
  rw [h.segments_spell, Module.segments_names hnames]

/-- Names below the source root are shown one by one. -/
theorem relativePath?_of_names (hroot : n.sourceRoot? m = some root) (hne : names ≠ [])
    (hnames : ∀ s ∈ names, IsName s ∧ '/' ∉ s.toList) :
    n.relativePath? m (ofComponents (root.components ++ names.map .name)) =
      some (Module.relativeText ((names.map n.told).map .name)) := by
  have hfile := (isNormal_of_sourceRoot? hroot).normal.append_names hnames
  refine relativePath?_eq_some_iff.2
    ⟨root, names.map .name, hroot, by simpa using hne, ?_, (relativeText_names names).symm⟩
  rw [(Path.isNormal_ofComponents hfile).normalize_eq, Path.components_ofComponents hfile]

/-- A canonical relative path names a file, which is shown by it. -/
theorem exists_sourceFile?_of_canonical (h : n.Lawful) (hroot : n.sourceRoot? m = some root)
    (hplain : Canonical relative) :
    ∃ file, n.sourceFile? m relative = some file ∧ n.relativePath? m file = some relative := by
  obtain ⟨names, hne, hnames, rfl⟩ := hplain
  refine ⟨_, sourceFile?_of_names h hroot hne hnames, ?_⟩
  rw [relativePath?_of_names hroot (by simpa using hne) (h.names_spell hnames), h.map_told_spell]

/-- What lies inside a source root that ends in a name is named there by names. -/
theorem exists_names_of_relativePath? (hroot : n.sourceRoot? m = some root)
    (hname : root.fileName?.isSome = true) (h : n.relativePath? m file = some relative) :
    ∃ names : List String, names ≠ [] ∧ (∀ s ∈ names, IsName s ∧ '/' ∉ s.toList) ∧
      file.normalize = ofComponents (root.components ++ names.map .name) ∧
      relative = Module.relativeText ((names.map n.told).map .name) := by
  obtain ⟨root', cs, hroot', hne, hcs, rfl⟩ := relativePath?_eq_some_iff.1 h
  obtain rfl := Option.some.inj (hroot.symm.trans hroot')
  obtain ⟨last, hlast⟩ := Path.exists_getLast?_of_fileName? hname
  have hfile : Normal (root.components ++ cs) := hcs ▸ Path.normal_components_normalize file
  obtain ⟨names, rfl, hnames⟩ := hfile.exists_names hlast
  refine ⟨names, by simpa using hne, hnames, ?_, relativeText_names names⟩
  rw [Path.normalize_eq_ofComponents, hcs]

/-- The names of a file below a directory are texts. -/
def TextBelow (n : Naming) (root file : Path) : Prop :=
  ∀ cs, root.below? file.normalize = some cs → ∀ c ∈ cs, ∃ text, c.text = n.spell text

theorem textBelow_iff (h : n.Lawful)
    (hfile : file.normalize.components = root.components ++ names.map .name) :
    n.TextBelow root file ↔ ∀ s ∈ names, n.IsText s := by
  simp only [TextBelow, Path.below?_eq_some_iff.2 hfile, Option.some.injEq, forall_eq',
    List.forall_mem_map, Component.text, h.isText_iff_exists]

/-- Texts lead to the file that they show, and names that are none do not. -/
theorem sourceFile?_told_iff (h : n.Lawful) (hroot : n.sourceRoot? m = some root)
    (hne : names ≠ []) (hnames : ∀ s ∈ names, IsName s ∧ '/' ∉ s.toList) :
    n.sourceFile? m (Module.relativeText ((names.map n.told).map .name)) =
        some (ofComponents (root.components ++ names.map .name)) ↔
      ∀ s ∈ names, n.IsText s := by
  have hnormal := (isNormal_of_sourceRoot? hroot).normal
  rw [sourceFile?_of_names h hroot (by simpa using hne) (h.names_told hnames), Option.some.injEq]
  constructor
  · intro hsame s hs
    have hcomponents := congrArg Path.components hsame
    rw [Path.components_ofComponents (hnormal.append_names (h.names_spell (h.names_told hnames))),
      Path.components_ofComponents (hnormal.append_names hnames), List.append_cancel_left_eq,
      List.map_inj_right fun a b => Component.name.inj, List.map_map] at hcomponents
    exact List.map_eq_map_iff.1 (hcomponents.trans (List.map_id names).symm) s hs
  · intro htexts
    have hspelled : (names.map n.told).map n.spell = names := by
      rw [List.map_map]
      exact (List.map_congr_left htexts).trans (List.map_id names)
    rw [hspelled]

/-- Below a source root that ends in a name, a file is shown by a canonical relative path, which
names it just when its names from there are texts. A canonical relative path names a file that it
shows, and every relative path that names a file has a canonical spelling, which shows the file. -/
theorem inverse_on_texts (h : n.Lawful) (hroot : n.sourceRoot? m = some root)
    (hname : root.fileName?.isSome = true) :
    (∀ file relative, n.relativePath? m file = some relative →
      Canonical relative ∧
        (n.sourceFile? m relative = some file.normalize ↔ n.TextBelow root file)) ∧
    (∀ relative, Canonical relative →
      ∃ file, n.sourceFile? m relative = some file ∧ n.relativePath? m file = some relative) ∧
    ∀ relative file, n.sourceFile? m relative = some file →
      ∃ plain, n.relativePath? m file = some plain ∧ Canonical plain ∧
        n.sourceFile? m plain = some file := by
  have hnormal := isNormal_of_sourceRoot? hroot
  refine ⟨fun file relative hrelative => ?_,
    fun relative hplain => exists_sourceFile?_of_canonical h hroot hplain,
    fun relative file hsource => ?_⟩
  · obtain ⟨names, hne, hnames, hfile, rfl⟩ := exists_names_of_relativePath? hroot hname hrelative
    have hcomponents : file.normalize.components = root.components ++ names.map .name := by
      rw [hfile, Path.components_ofComponents (hnormal.normal.append_names hnames)]
    refine ⟨⟨names.map n.told, by simpa using hne, h.names_told hnames, rfl⟩, ?_⟩
    rw [textBelow_iff h hcomponents, hfile, sourceFile?_told_iff h hroot hne hnames]
  · obtain ⟨root', hroot', hbeneath⟩ := sourceFile?_eq_some_iff.1 hsource
    obtain rfl := Option.some.inj (hroot.symm.trans hroot')
    obtain ⟨names, hne, hnames, hcomponents⟩ := Path.inside_of_beneath? hnormal hname hbeneath
    have hfile : file = ofComponents (root.components ++ names.map .name) := by
      rw [(Path.isNormal_of_beneath? hbeneath).eq_ofComponents, hcomponents]
    -- all names behind the source root were read from a spelled text
    have htexts : ∀ s ∈ names, n.IsText s := by
      intro s hs
      have hread := Path.mem_segments_of_beneath? hnormal hbeneath hcomponents (.name s)
        (List.mem_map_of_mem hs)
      rw [h.segments_spell] at hread
      obtain ⟨text, -, rfl⟩ := List.mem_map.1 (Path.name_mem_filterMap_iff.1 hread).1
      exact h.isText_spell text
    refine ⟨_, hfile ▸ relativePath?_of_names hroot hne hnames,
      ⟨names.map n.told, by simpa using hne, h.names_told hnames, rfl⟩, ?_⟩
    rw [hfile, sourceFile?_told_iff h hroot hne hnames]
    exact htexts

end Naming

/-! ## A module on a disk with names in octets -/

namespace Spelled

def m : Module :=
  (Module.ofManifest? ⟨"/proj/mod"⟩ { ModuleManifest.empty with
    name := some "Pkg", src := some "src" }).get (by decide)

/-- A name of which the first character is one octet that no text has. -/
def illegible : Path := ⟨"/proj/mod/src/\u00FF.bay"⟩

/-- A name of which the first character takes two octets. -/
def legible : Path := ⟨"/proj/mod/src/\u00C3\u00A9.bay"⟩

/-- The mark that an octet is shown as is the name of another file. -/
theorem illegible_not_inverse :
    Naming.octets.sourceRoot? m = some ⟨"/proj/mod/src"⟩ ∧
      (⟨"/proj/mod/src"⟩ : Path).fileName?.isSome = true ∧
      Naming.octets.relativePath? m illegible = some "/\uFFFD.bay" ∧
      Naming.octets.sourceFile? m "/\uFFFD.bay" ≠ some illegible.normalize := by
  decide +kernel

theorem canonical_item : Module.Canonical "/é/Item.bay" := by
  refine Module.canonical_iff_split.2 ⟨["é", "Item.bay"], by simp, by decide, ?_⟩
  simp [Path.IsName]

/-- A file with a text for its name and its relative path lead to each other, a canonical relative
path is that of its file, and one with dots in it has a canonical spelling. -/
theorem inverse_on_legible :
    Naming.octets.sourceRoot? m = some ⟨"/proj/mod/src"⟩ ∧
      Naming.octets.sourceFile? m "/é.bay" = some legible.normalize ∧
      (∃ file, Naming.octets.sourceFile? m "/é/Item.bay" = some file ∧
        Naming.octets.relativePath? m file = some "/é/Item.bay") ∧
      ∃ file plain, Naming.octets.sourceFile? m "é/.././/Item.bay" = some file ∧
        Naming.octets.relativePath? m file = some plain ∧ Module.Canonical plain ∧
        Naming.octets.sourceFile? m plain = some file := by
  have hroot : Naming.octets.sourceRoot? m = some ⟨"/proj/mod/src"⟩ := by decide +kernel
  have hshown : Naming.octets.relativePath? m legible = some "/é.bay" := by decide +kernel
  have hfile : Naming.octets.sourceFile? m "é/.././/Item.bay" =
      some ⟨"/proj/mod/src/Item.bay"⟩ := by
    decide +kernel
  have htext : Naming.octets.TextBelow ⟨"/proj/mod/src"⟩ legible := by
    intro cs hcs
    have hbelow : (⟨"/proj/mod/src"⟩ : Path).below? legible.normalize =
        some [.name "\u00C3\u00A9.bay"] := by decide
    obtain rfl := Option.some.inj (hbelow.symm.trans hcs)
    exact List.forall_mem_singleton.2 ⟨"é.bay", by decide +kernel⟩
  obtain ⟨hinverse, hcanonical, hspelled⟩ :=
    Naming.inverse_on_texts Naming.octets_lawful hroot (by decide)
  obtain ⟨plain, hplain⟩ := hspelled _ _ hfile
  exact ⟨hroot, (hinverse _ _ hshown).2.2 htext, hcanonical _ canonical_item, _, plain, hfile,
    hplain⟩

end Spelled

end Polybuild
