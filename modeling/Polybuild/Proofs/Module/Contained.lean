import Polybuild.Proofs.Module.Sources

/-!
# Roots that hold what is named below them

A relative path is refused when it leads out of the source root or of a destination root. This is
told by comparing components, so a root keeps all that is named below it when its own path ends in
a name. The empty path, the root of the disk and a path that ends in two dots have nothing that two
dots could take back: what leads up from there still starts like the root, and is not refused.
-/

namespace Polybuild

namespace Module

variable {m : Module} {root : Path}

/-- All that is found by relative paths lies strictly inside a root. -/
def KeptInside (root : Path) (find? : String → Option Path) : Prop :=
  ∀ relative p, find? relative = some p → root.StrictlyInside p

/-- All roots of the module keep what is named below them. -/
def Contained (m : Module) : Prop :=
  (∀ root, m.sourceRoot? = some root → KeptInside root m.sourceFile?) ∧
    ∀ lang root, m.destRoot? lang = some root → KeptInside root fun relative =>
      m.destFile? relative lang

theorem keptInside_sourceFile?_iff (h : m.sourceRoot? = some root) :
    KeptInside root m.sourceFile? ↔ root.fileName?.isSome = true := by
  rw [← Path.forall_strictlyInside_iff (isNormal_of_sourceRoot? h)]
  simp only [KeptInside, sourceFile?, h, Option.bind_some]

theorem keptInside_destFile?_iff {lang : String} (h : m.destRoot? lang = some root) :
    KeptInside root (fun relative => m.destFile? relative lang) ↔
      root.fileName?.isSome = true := by
  have hroot := isNormal_of_destRoot? h
  have hdest : ∀ relative, m.destFile? relative lang =
      root.beneath? (rewriteExtension relative lang) := by
    intro relative
    simp only [destFile?, h, Option.bind_some]
  simp only [KeptInside, hdest]
  constructor
  · intro hkept
    by_contra hname
    obtain ⟨p, hp, hout⟩ := Path.exists_beneath?_up hroot (by simpa using hname)
    -- the name of this file has no extension that could be rewritten
    have hrewrite : rewriteExtension "/../x" lang = "/../x" := by
      have hcut : cutExtension? "/../x" = none := by decide
      simp [rewriteExtension, hcut]
    exact hout (hkept "/../x" p (by rw [hrewrite, hp]))
  · exact fun hname relative => (Path.forall_strictlyInside_iff hroot).2 hname _

/-- What is named below a root starts with the path of the root and goes on. It does so without two
dots, whatever the relative path, just when the path of the root ends in a name. -/
theorem kept_inside_iff_named (m : Module) :
    (∀ root, m.sourceRoot? = some root →
      (∀ relative file, m.sourceFile? relative = some file →
        ∃ cs, cs ≠ [] ∧ file.components = root.components ++ cs) ∧
      (KeptInside root m.sourceFile? ↔ root.fileName?.isSome = true)) ∧
    ∀ lang root, m.destRoot? lang = some root →
      (∀ relative file, m.destFile? relative lang = some file →
        ∃ cs, cs ≠ [] ∧ file.components = root.components ++ cs) ∧
      (KeptInside root (fun relative => m.destFile? relative lang) ↔
        root.fileName?.isSome = true) := by
  constructor
  · intro root hroot
    refine ⟨fun relative file hfile => ?_, keptInside_sourceFile?_iff hroot⟩
    obtain ⟨root', hroot', hbeneath⟩ := sourceFile?_eq_some_iff.1 hfile
    obtain rfl := Option.some.inj (hroot'.symm.trans hroot)
    obtain ⟨cs, hne, hcs, -⟩ :=
      Path.exists_components_of_beneath? (isNormal_of_sourceRoot? hroot) hbeneath
    exact ⟨cs, hne, hcs⟩
  · intro lang root hroot
    refine ⟨fun relative file hfile => ?_, keptInside_destFile?_iff hroot⟩
    obtain ⟨root', hroot', hbeneath⟩ := destFile?_eq_some_iff.1 hfile
    obtain rfl := Option.some.inj (hroot'.symm.trans hroot)
    obtain ⟨cs, hne, hcs, -⟩ :=
      Path.exists_components_of_beneath? (isNormal_of_destRoot? hroot) hbeneath
    exact ⟨cs, hne, hcs⟩

end Module

/-! ## A root without a name -/

namespace Outward

/-- A module whose source root is the directory that it stands in, given by a relative path. -/
def m : Module :=
  (Module.ofManifest? ⟨"m"⟩ { ModuleManifest.empty with
    name := some "M", src := some ".." }).get (by decide)

/-- The source root is the empty path, and two dots lead out of it. -/
theorem not_contained_outward : ¬m.Contained := by
  intro h
  have hroot : m.sourceRoot? = some ⟨""⟩ := by decide
  have hfile : m.sourceFile? "/../x.bay" = some ⟨"../x.bay"⟩ := by decide
  obtain ⟨cs, -, hups, hcs⟩ := h.1 _ hroot _ _ hfile
  have hleft : (⟨"../x.bay"⟩ : Path).components = [.up, .name "x.bay"] := by decide
  have hempty : (⟨""⟩ : Path).components = [] := by decide
  rw [hleft, hempty, List.nil_append] at hcs
  simp [← hcs] at hups

end Outward

end Polybuild
