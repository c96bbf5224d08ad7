import Polybuild.Proofs.Requirements.Distinct
import Polybuild.Proofs.Requirements.Graph

/-!
# References in requirements and in lists of modules

`Requirements.targets` says what an entry asks for where a module requires it, and
`Project.referents` what it stands for in a list of modules, such as that of a bundle. The two differ
in one name at most. A module does not require itself by a group that it is in, but a list that has
the group has the module.

So the lists that are made of entries differ in this name only, because a name can be left out of a
list before or after repetitions are (`filter_eraseDups`).
-/

namespace Polybuild

namespace Reference

variable {entry name : String}

/-- A name that is not written like a group refers to the module of this name. -/
theorem ofText_of_not_startsLikeGroup (h : startsLikeGroup name = false) :
    ofText name = .module name := by
  have hprefix : ("@".toList.isPrefixOf name.toList) = false := by
    unfold startsLikeGroup at h
    cases hname : name.toList with
    | nil => rfl
    | cons first rest =>
        have hfirst : first ≠ '@' := by simpa [hname] using h
        simpa [List.isPrefixOf] using Ne.symm hfirst
  rw [ofText, Text.afterStart?, if_neg (Bool.eq_false_iff.1 hprefix)]

/-- A name that starts like a group refers to a group. -/
theorem ofText_eq_module_iff : ofText name = .module name ↔ startsLikeGroup name = false := by
  refine ⟨fun h => ?_, ofText_of_not_startsLikeGroup⟩
  by_contra hgroup
  obtain ⟨rest, hrest⟩ : ∃ rest, name.toList = '@' :: rest := by
    unfold startsLikeGroup at hgroup
    cases hname : name.toList with
    | nil => simp [hname] at hgroup
    | cons first rest => simp_all
  simp [ofText, Text.afterStart?, hrest, List.isPrefixOf] at h

theorem eq_of_ofText_eq_module (h : ofText entry = .module name) : entry = name := by
  unfold ofText at h
  split at h
  · simp at h
  · exact module.inj h

end Reference

namespace Project

open Requirements (required)

variable {p : Project} {m : Module} {entry : String}

/-- But for the module itself, an entry asks for what it stands for. -/
theorem filter_targets (p : Project) (m : Module) (entry : String) :
    (Requirements.targets p.catalog.modules m entry).filter (· ≠ m.name) =
      (p.referents entry).filter (· ≠ m.name) := by
  unfold Requirements.targets referents
  cases Reference.ofText entry with
  | group tag =>
      simp only [Catalog.withGroup, List.filter_map, List.filter_filter]
      congr 1
      refine List.filter_congr fun n _ => ?_
      cases n.hasGroup entry <;> simp
  | module name => rfl

theorem filter_required (p : Project) (m : Module) :
    (required p.catalog.modules m).filter (· ≠ m.name) =
      (p.expand m.manifest.require).filter (· ≠ m.name) := by
  rw [required, expand, Requirements.foldl_pushNew_eq_eraseDups,
    Requirements.foldl_pushNew_eq_eraseDups, filter_eraseDups, filter_eraseDups,
    List.filter_flatMap, List.filter_flatMap]
  simp only [filter_targets]

theorem nodup_required (modules : List Module) (m : Module) : (required modules m).Nodup := by
  rw [required, Requirements.foldl_pushNew_eq_eraseDups]
  exact nodup_eraseDups _

/-- An entry asks for the module that has it only when it is the name of the module. -/
theorem name_mem_targets_iff (hm : m ∈ p.catalog.modules) :
    m.name ∈ Requirements.targets p.catalog.modules m entry ↔
      entry = m.name ∧ startsLikeGroup m.name = false := by
  rw [mem_targets hm, ← Reference.ofText_eq_module_iff]
  constructor
  · rintro (hname | ⟨-, -, -, hother⟩)
    · obtain rfl := Reference.eq_of_ofText_eq_module hname
      exact ⟨rfl, hname⟩
    · exact absurd rfl hother
  · rintro ⟨rfl, hname⟩
    exact Or.inl hname

theorem name_mem_required_iff (hm : m ∈ p.catalog.modules) :
    m.name ∈ required p.catalog.modules m ↔
      m.name ∈ m.manifest.require ∧ startsLikeGroup m.name = false := by
  rw [required, Requirements.mem_foldl_pushNew, List.mem_flatMap]
  simp only [name_mem_targets_iff hm, List.not_mem_nil, false_or]
  constructor
  · rintro ⟨entry, hentry, rfl, hplain⟩
    exact ⟨hentry, hplain⟩
  · rintro ⟨hentry, hplain⟩
    exact ⟨m.name, hentry, rfl, hplain⟩

theorem of_requirements (hm : m ∈ p.catalog.modules) :
    p.requirements.of m.name = required p.catalog.modules m := by
  simp [Requirements.of, get?_requirements, Catalog.get?_name hm]

/-- A module that does not name itself requires what its list of requirements stands for, without
itself, each name once and in the order of the list. It requires itself only when it names itself,
never by a group. -/
theorem requirements_eq_expand (hm : m ∈ p.catalog.modules) :
    (m.name ∉ m.manifest.require →
      p.requirements.of m.name = (p.expand m.manifest.require).filter (· ≠ m.name)) ∧
    (p.requirements.of m.name).Nodup ∧
    (m.name ∈ p.requirements.of m.name ↔
      m.name ∈ m.manifest.require ∧ startsLikeGroup m.name = false) := by
  rw [of_requirements hm]
  refine ⟨fun hother => ?_, nodup_required _ _, name_mem_required_iff hm⟩
  have hself : m.name ∉ required p.catalog.modules m :=
    fun hmem => hother ((name_mem_required_iff hm).1 hmem).1
  rw [← filter_required, List.filter_eq_self.2]
  intro name hname
  simpa using fun heq : name = m.name => hself (heq ▸ hname)

end Project

namespace Grouping

/-- A module that requires two groups, its own one among them, and some names. -/
def page : Module :=
  (Module.ofManifest? ⟨"/page"⟩ { ModuleManifest.empty with
    name := some "Page", groups := ["ui"]
    require := ["Log", "@ui", "Ghost", "@core", "Log"] }).get (by decide)

/-- A module of both groups. -/
def net : Module :=
  (Module.ofManifest? ⟨"/net"⟩ { ModuleManifest.empty with
    name := some "Net", groups := ["core", "ui"] }).get (by decide)

/-- A module of one group that requires itself. -/
def log : Module :=
  (Module.ofManifest? ⟨"/log"⟩ { ModuleManifest.empty with
    name := some "Log", groups := ["core"], require := ["@core", "Log"] }).get (by decide)

/-- A project of the three modules. -/
def project : Project :=
  Project.ofParts ⟨"/"⟩ ProjectManifest.empty (Catalog.ofModules [log, page, net])

/-- The list of `Page` stands for `Page` too, which does not require itself. `Log` does. -/
theorem requirements_project :
    project.expand page.manifest.require = ["Log", "Page", "Net", "Ghost"] ∧
      project.requirements.of "Page" = ["Log", "Net", "Ghost"] ∧
      "Log" ∈ project.requirements.of "Log" := by
  have hmodules : project.catalog.modules = [log, page, net] := rfl
  have hpage : page ∈ project.catalog.modules := by simp [hmodules]
  have hlog : log ∈ project.catalog.modules := by simp [hmodules]
  have hexpand : project.expand page.manifest.require = ["Log", "Page", "Net", "Ghost"] := by
    decide
  obtain ⟨hlist, -, -⟩ := Project.requirements_eq_expand hpage
  obtain ⟨-, -, hself⟩ := Project.requirements_eq_expand hlog
  refine ⟨hexpand, (hlist (by decide)).trans ?_, hself.2 ⟨by decide, by decide⟩⟩
  rw [hexpand]
  decide

end Grouping

end Polybuild
