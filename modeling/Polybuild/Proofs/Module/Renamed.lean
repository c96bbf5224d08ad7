import Mathlib.Data.List.TakeWhile
import Polybuild.Proofs.Disk.Inside
import Polybuild.Proofs.Module.Sources

/-!
# Translations stand where their sources stand

The name of a translation differs from that of its source in the last segment only. So the
translation of a file into one language and that into another stand in one place only if the
destination roots of the languages do.
-/

namespace Polybuild

open Polybuild.Path (IsName)

variable {path stem extension lang : String}

/-- Where a path text is cut: behind a dot with a character other than a slash in front of it, and
before an extension without slashes. -/
theorem cutExtension?_eq_some (h : cutExtension? path = some (stem, extension)) :
    path = stem ++ extension ∧ '/' ∉ extension.toList ∧
      ∃ front c, stem.toList = front ++ [c, '.'] ∧ c ≠ '/' := by
  unfold cutExtension? at h
  generalize hreversed : path.toList.reverse = reversed at h
  dsimp only at h
  have hprefix : reversed.takeWhile (fun c => c ≠ '.' && c ≠ '/') <+: reversed :=
    List.takeWhile_prefix _
  have hwhole := List.prefix_iff_eq_append.1 hprefix
  generalize hext : reversed.takeWhile (fun c => c ≠ '.' && c ≠ '/') = ext at h hwhole
  split at h
  · rename_i c rest hdrop
    split at h
    · simp at h
    · rename_i hc
      obtain ⟨rfl, rfl⟩ : String.ofList ('.' :: c :: rest).reverse = stem ∧
          String.ofList ext.reverse = extension := by simpa using h
      refine ⟨?_, ?_, rest.reverse, c, by simp, hc⟩
      · apply String.toList_inj.1
        rw [hdrop] at hwhole
        have hpath : path.toList = reversed.reverse := by simp [← hreversed]
        rw [hpath, ← hwhole]
        simp
      · intro hmem
        have hslash : '/' ∈ reversed.takeWhile fun c => c ≠ '.' && c ≠ '/' := by
          rw [hext]
          simpa using hmem
        simpa using List.mem_takeWhile_imp hslash
  · simp at h

theorem extension?_eq_some (h : Language.extension? lang = some extension) :
    '/' ∉ extension.toList ∧ extension ≠ "" := by
  have hknown : ∀ language ∈ Language.known,
      '/' ∉ language.extension.toList ∧ language.extension ≠ "" := by
    decide
  obtain ⟨language, hfind, rfl⟩ := Option.map_eq_some_iff.1 h
  exact hknown language (List.mem_of_find?_eq_some hfind)

namespace Module

theorem relativeText_concat (cs : List Component) (c : Component) :
    relativeText (cs ++ [c]) = relativeText cs ++ "/" ++ c.text := by
  induction cs with
  | nil => simp [relativeText]
  | cons first cs ih =>
      rw [List.cons_append, relativeText_cons, ih, relativeText_cons]
      simp only [String.append_assoc]

/-- A cut with no slash around and behind it is within what follows the last slash. -/
theorem exists_of_cut {front last chars ext : List Char} {c : Char}
    (h : front ++ '/' :: last = chars ++ c :: '.' :: ext) (hc : c ≠ '/') (hext : '/' ∉ ext) :
    ∃ rest, chars = front ++ '/' :: rest ∧ last = rest ++ c :: '.' :: ext := by
  rcases List.append_eq_append_iff.1 h with ⟨between, hchars, hlast⟩ | ⟨between, -, hcut⟩
  · cases between with
    | nil =>
        have hslash : '/' = c := by simpa using (List.cons.inj hlast).1
        exact absurd hslash.symm hc
    | cons slash rest =>
        obtain ⟨rfl, hrest⟩ := List.cons.inj hlast
        exact ⟨rest, hchars, hrest⟩
  · have hmem : '/' ∈ c :: '.' :: ext := by
      rw [hcut]
      exact List.mem_append_right _ List.mem_cons_self
    simp [Ne.symm hc, hext] at hmem

/-- The cut of a path is within its last segment, behind two characters of it or more. -/
theorem exists_of_cutExtension? {front last : String}
    (h : cutExtension? (front ++ "/" ++ last) = some (stem, extension)) :
    ∃ kept, stem = front ++ "/" ++ kept ∧ last = kept ++ extension ∧ 2 ≤ kept.length := by
  obtain ⟨hwhole, hslash, chars, c, hstem, hc⟩ := cutExtension?_eq_some h
  have hchars : front.toList ++ '/' :: last.toList = chars ++ c :: '.' :: extension.toList := by
    simpa [hstem] using congrArg String.toList hwhole
  obtain ⟨rest, hfront, hlast⟩ := exists_of_cut hchars hc hslash
  refine ⟨.ofList (rest ++ [c, '.']), ?_, ?_, ?_⟩
  · apply String.toList_inj.1
    simp [hstem, hfront]
  · apply String.toList_inj.1
    simp [hlast]
  · rw [String.length_ofList, List.length_append]
    exact Nat.le_add_left _ _

theorem isName_of_length {s : String} (h : 2 < s.length) : IsName s := by
  refine ⟨?_, ?_, ?_⟩ <;> rintro rfl <;> exact absurd h (by decide)

theorem relativeText_names_concat (front : List String) (last : String) :
    relativeText ((front ++ [last]).map .name) =
      relativeText (front.map .name) ++ "/" ++ last := by
  rw [List.map_append, List.map_singleton, relativeText_concat]
  rfl

/-- A translation is named like its source, up to the last name. -/
theorem exists_rewriteExtension (front : List String) {last : String}
    (hlast : IsName last ∧ '/' ∉ last.toList) (lang : String) :
    ∃ name, (IsName name ∧ '/' ∉ name.toList) ∧
      rewriteExtension (relativeText ((front ++ [last]).map .name)) lang =
        relativeText ((front ++ [name]).map .name) := by
  unfold rewriteExtension
  split
  · rename_i target stem extension htarget hcut
    split
    · rw [relativeText_names_concat] at hcut
      obtain ⟨kept, rfl, rfl, hkept⟩ := exists_of_cutExtension? hcut
      obtain ⟨htargetSlash, htargetNe⟩ := extension?_eq_some htarget
      refine ⟨kept ++ target, ⟨?_, ?_⟩, ?_⟩
      · have hlength : 0 < target.length := by
          rw [Nat.pos_iff_ne_zero]
          simpa using htargetNe
        apply isName_of_length
        rw [String.length_append]
        omega
      · have hkeptSlash : '/' ∉ kept.toList := fun hmem => hlast.2 (by simp [hmem])
        simp [hkeptSlash, htargetSlash]
      · rw [relativeText_names_concat, String.append_assoc]
    · exact ⟨last, hlast, rfl⟩
  · exact ⟨last, hlast, rfl⟩

variable {d : Disk} {m : Module} {plain lang' : String} {p p' : Path}

/-- A translation goes down from its destination root by the names of its source, but for the last
one. -/
theorem destFile?_eq_ofComponents {front : List String} {last : String}
    (hnames : ∀ s ∈ front ++ [last], IsName s ∧ '/' ∉ s.toList)
    (h : m.destFile? (relativeText ((front ++ [last]).map .name)) lang = some p) :
    ∃ root name, m.destRoot? lang = some root ∧
      Path.Normal (root.components ++ (front ++ [name]).map .name) ∧
      p = Path.ofComponents (root.components ++ (front ++ [name]).map .name) := by
  obtain ⟨root, hroot, hbeneath⟩ := destFile?_eq_some_iff.1 h
  have hnormal := isNormal_of_destRoot? hroot
  obtain ⟨name, hname, hrenamed⟩ :=
    exists_rewriteExtension front (hnames last (by simp)) lang
  have hproper : ∀ s ∈ front ++ [name], IsName s ∧ '/' ∉ s.toList := by
    intro s hs
    rcases List.mem_append.1 hs with hs | hs
    · exact hnames s (List.mem_append_left _ hs)
    · rwa [List.mem_singleton.1 hs]
  rw [hrenamed, Path.beneath?_of_segments hnormal (by simp) hproper (segments_names hproper)]
    at hbeneath
  exact ⟨root, name, hroot, hnormal.normal.append_names hproper, (Option.some.inj hbeneath).symm⟩

/-- A translation has a normal path that ends in a name. -/
theorem isNormal_of_destFile? (hplain : Canonical plain) (h : m.destFile? plain lang = some p) :
    p.IsNormal ∧ p.fileName?.isSome = true := by
  obtain ⟨names, hne, hnames, rfl⟩ := hplain
  obtain ⟨front, last, rfl⟩ := (List.eq_nil_or_concat' names).resolve_left hne
  obtain ⟨root, name, -, hnormal, rfl⟩ := destFile?_eq_ofComponents hnames h
  refine ⟨Path.isNormal_ofComponents hnormal, ?_⟩
  rw [Path.fileName?, Path.components_ofComponents hnormal]
  simp

/-- The target of a translation, from that of its destination root. -/
theorem target_of_destFile? {front : List String} {last : String}
    (hnames : ∀ s ∈ front ++ [last], IsName s ∧ '/' ∉ s.toList)
    (h : m.destFile? (relativeText ((front ++ [last]).map .name)) lang = some p) :
    ∃ root name, m.destRoot? lang = some root ∧
      d.target p = name :: (front.reverse ++ d.target root) := by
  obtain ⟨root, name, hroot, hnormal, rfl⟩ := destFile?_eq_ofComponents hnames h
  refine ⟨root, name, hroot, ?_⟩
  rw [Disk.target_of_names (Path.components_ofComponents hnormal)]
  simp

/-- Two translations of a file stand in one place only if their destination roots do. -/
theorem target_destRoot_eq (hplain : Canonical plain) (h : m.destFile? plain lang = some p)
    (h' : m.destFile? plain lang' = some p') (htarget : d.target p = d.target p') :
    ∃ root root', m.destRoot? lang = some root ∧ m.destRoot? lang' = some root' ∧
      d.target root = d.target root' := by
  obtain ⟨names, hne, hnames, rfl⟩ := hplain
  obtain ⟨front, last, rfl⟩ := (List.eq_nil_or_concat' names).resolve_left hne
  obtain ⟨root, name, hroot, hp⟩ := target_of_destFile? (d := d) hnames h
  obtain ⟨root', name', hroot', hp'⟩ := target_of_destFile? (d := d) hnames h'
  rw [hp, hp'] at htarget
  exact ⟨root, root', hroot, hroot', List.append_cancel_left (List.cons.inj htarget).2⟩

end Module

end Polybuild
