import Polybuild.Module.Basic
import Polybuild.Proofs.Path.Beneath

/-!
# The files of a module and their relative paths

A file below a source root has one plain relative path, which names that file again, however the
file was named before. Where the roots of a module end in names, this relative path is `Canonical`:
names with a slash in front of each.
-/

namespace Polybuild

namespace Module

variable {m : Module} {root file : Path} {cs : List Component} {relative : String}

open Polybuild.Path (Proper IsName Normal)

theorem relativeText_cons (c : Component) (cs : List Component) :
    relativeText (c :: cs) = "/" ++ c.text ++ relativeText cs := by
  cases cs with
  | nil => simp [relativeText]
  | cons c' cs => simp [relativeText, Text.join_cons_cons]

/-- The pieces of a plain relative path are its components. -/
theorem split_relativeText (h : ∀ c ∈ cs, '/' ∉ c.text.toList) :
    Text.split '/' (relativeText cs) = "" :: cs.map Component.text := by
  induction cs with
  | nil => decide
  | cons c cs ih =>
      rw [List.forall_mem_cons] at h
      have hrest := ih h.2
      have hbehind : Text.split '/' (c.text ++ relativeText cs) =
          c.text :: cs.map Component.text := by
        cases cs with
        | nil => simpa [relativeText] using Text.split_of_not_mem h.1
        | cons next cs =>
            rw [relativeText_cons, String.append_assoc, Text.split_slash_append] at hrest
            have hnext := List.tail_eq_of_cons_eq hrest
            have hassoc : c.text ++ ("/" ++ next.text ++ relativeText cs) =
                c.text ++ "/" ++ (next.text ++ relativeText cs) := by
              simp only [String.append_assoc]
            rw [relativeText_cons, hassoc, Text.split_append_slash, Text.split_of_not_mem h.1,
              hnext]
            rfl
      rw [relativeText_cons, String.append_assoc, Text.split_slash_append, hbehind, List.map_cons]

theorem split_relativeText_names {names : List String} (h : ∀ s ∈ names, '/' ∉ s.toList) :
    Text.split '/' (relativeText (names.map .name)) = "" :: names := by
  rw [split_relativeText (by simpa [Component.text] using h), List.map_map]
  exact congrArg _ (List.map_id names)

theorem segments_relativeText (hproper : ∀ c ∈ cs, Proper c) (hroot : ∀ c ∈ cs, c ≠ .root) :
    Path.segments (relativeText cs) = cs.map Component.text := by
  have hslash : ∀ c ∈ cs, '/' ∉ c.text.toList := fun c hc =>
    Path.not_mem_text (hproper c hc) (hroot c hc)
  rw [Path.segments, split_relativeText hslash, List.filter_cons_of_neg (by simp)]
  refine List.filter_eq_self.2 fun s hs => ?_
  obtain ⟨c, hc, rfl⟩ := List.mem_map.1 hs
  cases c with
  | root => exact absurd rfl (hroot _ hc)
  | here => decide
  | up => decide
  | name s => exact decide_eq_true (hproper _ hc).1.1

theorem segments_names {names : List String} (hnames : ∀ s ∈ names, IsName s ∧ '/' ∉ s.toList) :
    Path.segments (relativeText (names.map .name)) = names := by
  rw [segments_relativeText]
  · rw [List.map_map]
    exact List.map_id names
  · intro c hc
    obtain ⟨s, hs, rfl⟩ := List.mem_map.1 hc
    exact hnames s hs
  · simp

/-- A plain relative path names the file that it is read from. -/
theorem beneath?_relativeText (hroot : root.IsNormal) (hne : cs ≠ [])
    (hnormal : Normal (root.components ++ cs)) (hbelow : ∀ c ∈ cs, c ≠ .root) :
    root.beneath? (relativeText cs) = some (Path.ofComponents (root.components ++ cs)) := by
  have hproper : ∀ c ∈ cs, Proper c := fun c hc => hnormal.proper c (List.mem_append_right _ hc)
  have hmeant := Path.filterMap_ofPiece?_text fun c hc =>
    ⟨hproper c hc, hbelow c hc, hnormal.ne_here c (List.mem_append_right _ hc)⟩
  have hread := Path.foldl_pushNormal_of_normal hnormal
  rw [List.foldl_append, Path.foldl_pushNormal_of_normal hroot.normal] at hread
  rw [Path.beneath?_eq_some_iff hroot]
  refine ⟨Path.isNormal_ofComponents hnormal, cs, hne, Path.components_ofComponents hnormal, ?_⟩
  rw [segments_relativeText hproper hbelow, hmeant, hread, List.reverse_reverse]

/-! ## The files of a module -/

theorem isNormal_of_sourceRoot? (h : m.sourceRoot? = some root) : root.IsNormal := by
  obtain ⟨src, -, rfl⟩ := Option.map_eq_some_iff.1 h
  exact ⟨_, rfl⟩

theorem isNormal_of_destRoot? {lang : String} (h : m.destRoot? lang = some root) :
    root.IsNormal := by
  obtain ⟨dest, -, rfl⟩ := Option.map_eq_some_iff.1 h
  exact ⟨_, rfl⟩

theorem sourceFile?_eq_some_iff :
    m.sourceFile? relative = some file ↔
      ∃ root, m.sourceRoot? = some root ∧ root.beneath? relative = some file :=
  Option.bind_eq_some_iff

theorem destFile?_eq_some_iff {lang : String} :
    m.destFile? relative lang = some file ↔ ∃ root, m.destRoot? lang = some root ∧
      root.beneath? (rewriteExtension relative lang) = some file :=
  Option.bind_eq_some_iff

theorem relativePath?_eq_some_iff :
    m.relativePath? file = some relative ↔ ∃ root cs, m.sourceRoot? = some root ∧ cs ≠ [] ∧
      file.normalize.components = root.components ++ cs ∧ relative = relativeText cs := by
  unfold relativePath?
  constructor
  · intro h
    obtain ⟨root, hroot, hbelow⟩ := Option.bind_eq_some_iff.1 h
    obtain ⟨cs, hcs, htext⟩ := Option.bind_eq_some_iff.1 hbelow
    by_cases hne : cs = []
    · simp [hne] at htext
    · refine ⟨root, cs, hroot, hne, Path.below?_eq_some_iff.1 hcs, ?_⟩
      simpa [hne, eq_comm] using htext
  · rintro ⟨root, cs, hroot, hne, hcs, rfl⟩
    simp [hroot, Path.below?_eq_some_iff.2 hcs, hne]

/-- Names lead to the file below the source root that they spell. -/
theorem sourceFile?_of_names {names : List String} (hroot : m.sourceRoot? = some root)
    (hne : names ≠ []) (hnames : ∀ s ∈ names, IsName s ∧ '/' ∉ s.toList) :
    m.sourceFile? (relativeText (names.map .name)) =
      some (Path.ofComponents (root.components ++ names.map .name)) :=
  sourceFile?_eq_some_iff.2 ⟨root, hroot,
    Path.beneath?_of_segments (isNormal_of_sourceRoot? hroot) hne hnames (segments_names hnames)⟩

/-- A file below the source root has one plain relative path, which names it again. -/
theorem exists_relativePath?_of_sourceFile? (h : m.sourceFile? relative = some file) :
    ∃ plain, m.relativePath? file = some plain ∧ m.sourceFile? plain = some file := by
  obtain ⟨root, hroot, hbeneath⟩ := sourceFile?_eq_some_iff.1 h
  have hnormal := isNormal_of_sourceRoot? hroot
  have hfile := Path.isNormal_of_beneath? hbeneath
  obtain ⟨cs, hne, hcs, hbelow⟩ := Path.exists_components_of_beneath? hnormal hbeneath
  refine ⟨relativeText cs, relativePath?_eq_some_iff.2 ⟨root, cs, hroot, hne, ?_, rfl⟩,
    sourceFile?_eq_some_iff.2 ⟨root, hroot, ?_⟩⟩
  · rw [hfile.normalize_eq, hcs]
  · rw [beneath?_relativeText hnormal hne (hcs ▸ hfile.normal) hbelow, ← hcs,
      ← hfile.eq_ofComponents]

/-- Names with a slash in front of each. -/
def Canonical (relative : String) : Prop :=
  ∃ names : List String, names ≠ [] ∧ (∀ s ∈ names, IsName s ∧ '/' ∉ s.toList) ∧
    relative = relativeText (names.map .name)

/-- A relative path is canonical when it starts with a slash and all pieces behind it are names. -/
theorem canonical_iff_split :
    Canonical relative ↔ ∃ names, names ≠ [] ∧ Text.split '/' relative = "" :: names ∧
      ∀ s ∈ names, IsName s := by
  constructor
  · rintro ⟨names, hne, hnames, rfl⟩
    exact ⟨names, hne, split_relativeText_names fun s hs => (hnames s hs).2,
      fun s hs => (hnames s hs).1⟩
  · rintro ⟨names, hne, hpieces, hnames⟩
    have hslash : ∀ s ∈ names, '/' ∉ s.toList := fun s hs =>
      Path.not_mem_of_mem_split (hpieces ▸ List.mem_cons_of_mem _ hs)
    exact ⟨names, hne, fun s hs => ⟨hnames s hs, hslash s hs⟩,
      Text.split_inj (hpieces.trans (split_relativeText_names hslash).symm)⟩

/-- The source root and the destination roots end in names. -/
structure Rooted (m : Module) : Prop where
  source : ∀ root ∈ m.sourceRoot?, root.fileName?.isSome = true
  dest : ∀ lang, ∀ root ∈ m.destRoot? lang, root.fileName?.isSome = true

/-- What lies inside the source root is a file with a canonical relative path. -/
theorem sourceFile?_of_relativePath?
    (hnamed : ∀ root ∈ m.sourceRoot?, root.fileName?.isSome = true)
    (h : m.relativePath? file = some relative) :
    Canonical relative ∧ m.sourceFile? relative = some file.normalize := by
  obtain ⟨root, cs, hroot, hne, hcs, rfl⟩ := relativePath?_eq_some_iff.1 h
  have hnormal := isNormal_of_sourceRoot? hroot
  have hfile : Normal (root.components ++ cs) :=
    hcs ▸ Path.normal_components_normalize file
  obtain ⟨s, hlast⟩ := Path.exists_getLast?_of_fileName? (hnamed root hroot)
  obtain ⟨names, rfl, hnames⟩ := hfile.exists_names hlast
  refine ⟨⟨names, by simpa using hne, hnames, rfl⟩, sourceFile?_eq_some_iff.2 ⟨root, hroot, ?_⟩⟩
  rw [beneath?_relativeText hnormal hne hfile (by simp), ← hcs, ← Path.normalize_eq_ofComponents]

end Module

end Polybuild
