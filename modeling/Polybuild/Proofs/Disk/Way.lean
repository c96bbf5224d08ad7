import Polybuild.Proofs.Disk.Chain
import Polybuild.Proofs.Disk.Inside
import Polybuild.Proofs.Disk.Reading
import Polybuild.Proofs.Path.Above
import Polybuild.Proofs.Path.Absolute

/-!
# The way along a normal path

A normal path is followed component by component, and `way` says where its components lead. What
stands at the end of a path with a name is told from where the components before the name lead. So
nothing is missing there behind a directory or a file, and what is in the way of a directory is in
the way of all behind it.
-/

namespace Polybuild

namespace Disk

open Polybuild.Path (IsName Normal ofComponents)

variable {d : Disk} {l : Location} {name : String} {p : Path} {fault : Fault} {cs : List Component}

theorem unusable?_eq_none (hne : p.text ≠ "") (hspot : d.spot p ≠ .error .nulInName) :
    unusable? p = none := by
  cases hu : unusable? p with
  | none => rfl
  | some fault =>
      have hfault : d.spot p = .error fault := by simp only [spot, hu]
      unfold unusable? at hu
      split at hu
      · obtain rfl := Option.some.inj hu
        exact absurd hfault hspot
      · simp at hu

/-- Where the components of a path lead, one after the other. -/
def way (d : Disk) (cs : List Component) : Except Fault Location :=
  d.follow (if .root ∈ cs then [] else d.workDir) (cs.map Component.piece)

theorem way_nil (d : Disk) : d.way [] = .ok d.workDir := rfl

/-- Names lead on from where the components before them lead. -/
theorem way_append_names (d : Disk) (cs : List Component) (names : List String) :
    d.way (cs ++ names.map .name) = (d.way cs).bind fun dir => d.follow dir names := by
  have hpieces : (names.map Component.name).map Component.piece = names := by
    rw [List.map_map]
    exact List.map_id names
  simp only [way, List.map_append, hpieces, follow_append, List.mem_append, List.mem_map,
    reduceCtorEq, and_false, exists_false, or_false]

theorem way_concat (d : Disk) (cs : List Component) (name : String) :
    d.way (cs ++ [.name name]) = (d.way cs).bind fun dir => d.step dir name := by
  have hstep : ∀ dir, d.follow dir [name] = d.step dir name := by
    intro dir
    rw [follow]
    cases d.step dir name <;> rfl
  rw [← List.map_singleton, way_append_names]
  exact congrArg _ (funext hstep)

theorem nul_mem_ofComponents_iff (h : Normal cs) :
    '\x00' ∈ (ofComponents cs).text.toList ↔ ∃ c ∈ cs, '\x00' ∈ c.text.toList := by
  obtain ⟨rest, hcs, hrest⟩ := h.root_or
  rcases hcs with rfl | rfl
  · have hroot : '\x00' ∉ Component.root.text.toList := by decide
    rw [ofComponents, String.toList_append, List.mem_append, Text.toList_join,
      Text.mem_joinWith (by decide)]
    simp [hroot]
  · rw [Path.ofComponents_of_ne_root fun c hc => (hrest c hc).2.1, Text.toList_join,
      Text.mem_joinWith (by decide)]
    simp

theorem isAbsolute_ofComponents (h : Normal cs) :
    (ofComponents cs).isAbsolute = true ↔ .root ∈ cs := by
  rw [Path.isAbsolute_iff_components, Path.components_ofComponents h]
  constructor
  · rintro ⟨rest, rfl⟩
    exact List.mem_cons_self
  · intro hmem
    obtain ⟨rest, rfl | rfl, hrest⟩ := h.root_or
    · exact ⟨rest, rfl⟩
    · exact absurd rfl (hrest _ hmem).2.1

theorem start_ofComponents (h : Normal cs) :
    d.start (ofComponents cs) = if .root ∈ cs then [] else d.workDir := by
  simp only [start, isAbsolute_ofComponents h]

/-- A normal path that can be used leads where its components lead. -/
theorem locate_ofComponents (h : Normal cs) (hne : cs ≠ [])
    (hu : unusable? (ofComponents cs) = none) : d.locate (ofComponents cs) = d.way cs := by
  rw [locate, hu]
  dsimp only
  rw [start_ofComponents h, way]
  by_cases hroot : cs = [.root]
  · subst hroot
    have hblank : d.step [] "" = .ok [] := step_blank rfl
    have hsplit : Text.split '/' (ofComponents [.root]).text = ["", ""] := by decide
    have hpieces : [Component.root].map Component.piece = [""] := by decide
    rw [hsplit, hpieces]
    simp [follow, hblank, Except.bind]
  · rw [Path.split_ofComponents h hne hroot]

/-- What stands at the end of a path with a name is told from where the components before it
lead. -/
theorem spot_ofComponents_concat (h : Normal (cs ++ [.name name]))
    (hu : unusable? (ofComponents (cs ++ [.name name])) = none) :
    d.spot (ofComponents (cs ++ [.name name])) = (d.way cs).bind fun dir =>
      if d.isDirectoryAt dir then
        if longestName < name.utf8ByteSize then .error .nameTooLong
        else .ok (.entry dir name false)
      else if (d.entryAt? dir).isSome then .error .notADirectory
      else .error .notFound := by
  obtain ⟨⟨hempty, hdot, hup⟩, -⟩ := h.proper (.name name) (by simp)
  have hsplit : Text.split '/' (ofComponents (cs ++ [.name name])).text =
      cs.map Component.piece ++ name :: [] := by
    rw [Path.split_ofComponents h (by simp) (by cases cs <;> simp), List.map_append]
    rfl
  rw [spot_of_last hu hsplit hempty (by simp), start_ofComponents h, way]
  simp [hdot, hup]

theorem unusable?_ofComponents (h : Normal (cs ++ [.name name])) (hne : cs ≠ [])
    (hu : unusable? (ofComponents (cs ++ [.name name])) = none) :
    unusable? (ofComponents cs) = none := by
  have hfront := h.of_concat
  have hnul : '\x00' ∉ (ofComponents (cs ++ [.name name])).text.toList := by
    intro hmem
    simp [unusable?, hmem] at hu
  have hnulFront : '\x00' ∉ (ofComponents cs).text.toList := by
    intro hmem
    obtain ⟨c, hc, hcmem⟩ := (nul_mem_ofComponents_iff hfront).1 hmem
    exact hnul ((nul_mem_ofComponents_iff h).2 ⟨c, List.mem_append_left _ hc, hcmem⟩)
  simp [unusable?, hnulFront, Path.text_ofComponents_ne_empty hfront hne]

/-- Nothing is missing at the end of a path behind a directory that is there. -/
theorem spot_ne_notFound_of_isDirectory (h : Normal (cs ++ [.name name]))
    (hwork : d.isDirectoryAt d.workDir = true)
    (hdir : (ofComponents cs).text = "" ∨ d.isDirectory (ofComponents cs) = true)
    (hu : unusable? (ofComponents (cs ++ [.name name])) = none) :
    d.spot (ofComponents (cs ++ [.name name])) ≠ .error .notFound := by
  have hway : ∃ dir, d.way cs = .ok dir ∧ d.isDirectoryAt dir = true := by
    by_cases hne : cs = []
    · rw [hne]
      exact ⟨d.workDir, way_nil d, hwork⟩
    · have hthere := hdir.resolve_left (Path.text_ofComponents_ne_empty h.of_concat hne)
      obtain ⟨l, hlocate, hl⟩ := isDirectory_iff.1 hthere
      rw [locate_ofComponents h.of_concat hne (unusable?_ofComponents h hne hu)] at hlocate
      exact ⟨l, hlocate, hl⟩
  obtain ⟨dir, hdirway, hdirthere⟩ := hway
  rw [spot_ofComponents_concat h hu, hdirway]
  by_cases hlong : longestName < name.utf8ByteSize <;> simp [Except.bind, hdirthere, hlong]

/-- Nothing is missing at the end of a path behind a file. -/
theorem spot_ne_notFound_of_isFile (h : Normal (cs ++ [.name name]))
    (hfile : d.isFile (ofComponents cs) = true)
    (hu : unusable? (ofComponents (cs ++ [.name name])) = none) :
    d.spot (ofComponents (cs ++ [.name name])) ≠ .error .notFound := by
  obtain ⟨l, hlocate, hl⟩ := isFile_iff.1 hfile
  have hne : cs ≠ [] := by
    rintro rfl
    simp [locate, unusable?, ofComponents] at hlocate
  rw [locate_ofComponents h.of_concat hne (unusable?_ofComponents h hne hu)] at hlocate
  have hthere : (d.entryAt? l).isSome = true := isSome_entryAt?_iff.2 (Or.inr hl)
  rw [spot_ofComponents_concat h hu, hlocate]
  simp [Except.bind, isDirectoryAt_eq_false hl, hthere]

/-- What is in the way of a directory is in the way of all behind it. -/
theorem spot_eq_error_of_above {last : String} (h : Normal (cs ++ [.name name] ++ [.name last]))
    (hu : unusable? (ofComponents (cs ++ [.name name] ++ [.name last])) = none)
    (hspot : d.spot (ofComponents (cs ++ [.name name])) = .error fault)
    (hlasting : fault ≠ .notFound) :
    d.spot (ofComponents (cs ++ [.name name] ++ [.name last])) = .error fault := by
  have hfront := h.of_concat
  obtain ⟨⟨hempty, hdot, hup⟩, -⟩ := hfront.proper (.name name) (by simp)
  rw [spot_ofComponents_concat hfront (unusable?_ofComponents h (by simp) hu)] at hspot
  rw [spot_ofComponents_concat h hu, way_concat]
  rcases bind_eq_error_iff.1 hspot with hway | ⟨dir, hway, hdir⟩
  · simp [hway, Except.bind]
  · simp only [hway, Except.bind]
    have hstep : d.step dir name = .error fault := by
      unfold step
      grind
    simp [hstep]

/-- A normal path that does not end in a name leads to a directory. -/
theorem isDirectory_ofComponents {c : Component} (h : Normal (cs ++ [c]))
    (hwork : d.isDirectoryAt d.workDir = true) (hc : ∀ s, c ≠ .name s) :
    d.isDirectory (ofComponents (cs ++ [c])) = true := by
  have hnames : ∀ a ∈ cs ++ [c], ∀ s, a ≠ .name s := by
    intro a ha s hs
    rcases List.mem_append.1 ha with ha | ha
    · have hpair := (List.pairwise_append.1 h.pairwise).2.2 a ha c (by simp)
      obtain ⟨t, ht⟩ := hpair.2 ⟨s, hs⟩
      exact hc t ht
    · exact hc s ((List.mem_singleton.1 ha).symm.trans hs)
  have hnul : '\x00' ∉ (ofComponents (cs ++ [c])).text.toList := by
    intro hmem
    obtain ⟨a, ha, hmem⟩ := (nul_mem_ofComponents_iff h).1 hmem
    cases a with
    | name s => exact hnames _ ha s rfl
    | _ => exact absurd hmem (by decide)
  have hu : unusable? (ofComponents (cs ++ [c])) = none := by
    simp [unusable?, hnul, Path.text_ofComponents_ne_empty h (by simp)]
  have hpieces : ∀ s ∈ (cs ++ [c]).map Component.piece, ¬IsName s := by
    intro s hs
    obtain ⟨a, ha, rfl⟩ := List.mem_map.1 hs
    cases a with
    | name s => exact absurd rfl (hnames _ ha s)
    | here => exact absurd rfl (h.ne_here _ ha)
    | root => simp [Component.piece, IsName]
    | up => simp [Component.piece, Component.text, IsName]
  have hstart : d.isDirectoryAt (if .root ∈ cs ++ [c] then [] else d.workDir) = true := by
    split
    · rfl
    · exact hwork
  obtain ⟨l, hfollow, hl⟩ := exists_follow_of_not_isName hpieces hstart
  exact isDirectory_iff.2 ⟨l, (locate_ofComponents h (by simp) hu).trans hfollow, hl⟩

end Disk

end Polybuild
