import Polybuild.Naming.Basic
import Polybuild.Proofs.Module.Spellings
import Polybuild.Proofs.Text.Legible

/-!
# Laws of names

Plain names obey the laws of a naming, and so do names in octets. It follows from the laws that dots
mean the same in names and in texts, and that a path is a text when the names in it are.
-/

namespace Polybuild

open Polybuild.Path (IsName)

namespace Naming

variable {n : Naming} {s t : String} {p : Path}

theorem octets_lawful : octets.Lawful where
  told_spell := Text.legible_inOctets
  split_spell := Text.split_inOctets
  split_told := Text.split_legible
  told_eq_iff _ _ h := Text.legible_eq_iff_of_ascii h

namespace Lawful

/-! ## Texts in ASCII -/

theorem told_of_ascii (h : n.Lawful) (ht : t.toList.all (fun c => c.toNat < 128) = true) :
    n.told t = t :=
  (h.told_eq_iff t t ht).2 rfl

theorem spell_eq_iff (h : n.Lawful) (ht : t.toList.all (fun c => c.toNat < 128) = true) :
    n.spell s = t ↔ s = t := by
  constructor
  · intro hs
    rw [← h.told_spell s, hs, h.told_of_ascii ht]
  · rintro rfl
    exact (h.told_eq_iff _ _ ht).1 (h.told_spell s)

theorem isText_spell (h : n.Lawful) (s : String) : n.IsText (n.spell s) := by
  rw [IsText, h.told_spell]

/-- The texts among the names are those that are spelled. -/
theorem isText_iff_exists (h : n.Lawful) : n.IsText s ↔ ∃ text, s = n.spell text := by
  constructor
  · intro hs
    exact ⟨n.told s, hs.symm⟩
  · rintro ⟨text, rfl⟩
    exact h.isText_spell text

/-! ## Names -/

theorem isName_spell (h : n.Lawful) : IsName (n.spell s) ↔ IsName s := by
  have hempty := h.spell_eq_iff (s := s) (t := "") (by decide)
  have hdot := h.spell_eq_iff (s := s) (t := ".") (by decide)
  have hup := h.spell_eq_iff (s := s) (t := "..") (by decide)
  simp only [IsName, ne_eq, hempty, hdot, hup]

theorem isName_told (h : n.Lawful) : IsName (n.told s) ↔ IsName s := by
  have hempty := h.told_eq_iff s "" (by decide)
  have hdot := h.told_eq_iff s "." (by decide)
  have hup := h.told_eq_iff s ".." (by decide)
  simp only [IsName, ne_eq, hempty, hdot, hup]

theorem slash_notMem_spell (h : n.Lawful) (hs : '/' ∉ s.toList) : '/' ∉ (n.spell s).toList := by
  have hsplit := h.split_spell s
  rw [Text.split_of_not_mem hs, List.map_singleton] at hsplit
  exact Path.not_mem_of_mem_split (hsplit ▸ List.mem_singleton_self _)

theorem slash_notMem_told (h : n.Lawful) (hs : '/' ∉ s.toList) : '/' ∉ (n.told s).toList := by
  have hsplit := h.split_told s
  rw [Text.split_of_not_mem hs, List.map_singleton] at hsplit
  exact Path.not_mem_of_mem_split (hsplit ▸ List.mem_singleton_self _)

/-- Names are spelled as names, with no slashes in them. -/
theorem names_spell (h : n.Lawful) {names : List String}
    (hnames : ∀ s ∈ names, IsName s ∧ '/' ∉ s.toList) :
    ∀ s ∈ names.map n.spell, IsName s ∧ '/' ∉ s.toList := by
  intro name hname
  obtain ⟨s, hs, rfl⟩ := List.mem_map.1 hname
  exact ⟨h.isName_spell.2 (hnames s hs).1, h.slash_notMem_spell (hnames s hs).2⟩

/-- Names are shown as names, with no slashes in them. -/
theorem names_told (h : n.Lawful) {names : List String}
    (hnames : ∀ s ∈ names, IsName s ∧ '/' ∉ s.toList) :
    ∀ s ∈ names.map n.told, IsName s ∧ '/' ∉ s.toList := by
  intro name hname
  obtain ⟨s, hs, rfl⟩ := List.mem_map.1 hname
  exact ⟨h.isName_told.2 (hnames s hs).1, h.slash_notMem_told (hnames s hs).2⟩

theorem map_told_spell (h : n.Lawful) (texts : List String) :
    (texts.map n.spell).map n.told = texts := by
  rw [List.map_map]
  exact (List.map_congr_left fun t _ => h.told_spell t).trans (List.map_id texts)

/-- A relative path is spelled segment by segment. -/
theorem segments_spell (h : n.Lawful) (relative : String) :
    Path.segments (n.spell relative) = (Path.segments relative).map n.spell := by
  have hempty : ∀ s : String, decide (n.spell s ≠ "") = decide (s ≠ "") := by
    intro s
    simp only [ne_eq, h.spell_eq_iff (t := "") (by decide)]
  rw [Path.segments, h.split_spell, List.filter_map, Path.segments]
  simp only [Function.comp_def, hempty]

/-! ## Paths -/

end Lawful

end Naming

end Polybuild
