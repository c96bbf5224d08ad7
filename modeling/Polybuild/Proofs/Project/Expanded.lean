import Polybuild.Proofs.Project.Bundled
import Polybuild.Proofs.Text.Ends

/-!
# Lists of modules and groups, written out

A list of modules and groups is written out by putting the members of a group, in the order of the
catalog, in the place of each entry that is written like the group. `expand` keeps every name of the
list written out at its first place (`expand_eq_eraseDups`), so its laws are those of repetitions
that are dropped: what is expanded behind another list adds the names that are new there, and names
that are not written like groups are expanded to themselves.
-/

namespace Polybuild

variable {m : Module} {entry name : String}

theorem Reference.ofText_eq_group_iff {tag : String} :
    ofText entry = .group tag ↔ entry = "@" ++ tag := by
  rw [ofText, ← Text.afterStart?_eq_some_iff]
  cases Text.afterStart? "@" entry <;> simp

theorem startsLikeGroup_append (tag : String) : startsLikeGroup ("@" ++ tag) = true := by
  simp [startsLikeGroup]

/-- A module is in the group that an entry refers to when it has the tag behind the `@`. -/
theorem Module.hasGroup_iff_exists_tag :
    m.hasGroup entry = true ↔ ∃ tag ∈ m.manifest.groups, entry = "@" ++ tag := by
  rw [Project.hasGroup_iff]
  simp only [Reference.ofText_eq_group_iff, and_comm]

/-- Behind other names, those that are not among them are kept. -/
theorem eraseDups_append_eq_filter (front back : List String) :
    (front ++ back).eraseDups =
      front.eraseDups ++ back.eraseDups.filter fun name => name ∉ front.eraseDups := by
  have hnew : back.removeAll front = back.filter fun name => name ∉ front.eraseDups := by
    simp [List.removeAll]
  rw [List.eraseDups_append, hnew, filter_eraseDups]

namespace Project

variable {p : Project} {entries : List String}

/-- A list with the members of a group in the place of each entry that is written like the group. -/
def writtenOut (p : Project) (entries : List String) : List String :=
  entries.flatMap fun entry =>
    if startsLikeGroup entry then
      (p.catalog.modules.filter fun m => m.hasGroup entry).map (·.name)
    else [entry]

theorem referents_eq (p : Project) (entry : String) :
    p.referents entry =
      if startsLikeGroup entry then
        (p.catalog.modules.filter fun m => m.hasGroup entry).map (·.name)
      else [entry] := by
  unfold referents
  split
  · rename_i tag hgroup
    rw [Reference.ofText_eq_group_iff.1 hgroup, if_pos (startsLikeGroup_append tag)]
    rfl
  · rename_i name hmodule
    obtain rfl := Reference.eq_of_ofText_eq_module hmodule
    rw [if_neg (by simp [Reference.ofText_eq_module_iff.1 hmodule])]

theorem expand_eq_eraseDups (p : Project) (entries : List String) :
    p.expand entries = (p.writtenOut entries).eraseDups := by
  rw [expand, Requirements.foldl_pushNew_eq_eraseDups, writtenOut]
  exact congrArg _ (congrArg entries.flatMap (funext p.referents_eq))

theorem writtenOut_append (p : Project) (entries later : List String) :
    p.writtenOut (entries ++ later) = p.writtenOut entries ++ p.writtenOut later :=
  List.flatMap_append

theorem mem_writtenOut_iff : name ∈ p.writtenOut entries ↔
    (name ∈ entries ∧ startsLikeGroup name = false) ∨
      ∃ m ∈ p.catalog.modules, m.name = name ∧ ∃ tag ∈ m.manifest.groups, "@" ++ tag ∈ entries := by
  rw [writtenOut, List.mem_flatMap]
  constructor
  · rintro ⟨entry, hentry, hmem⟩
    split at hmem
    · obtain ⟨m, hkept, hname⟩ := List.mem_map.1 hmem
      obtain ⟨hm, hgroup⟩ := List.mem_filter.1 hkept
      obtain ⟨tag, htag, rfl⟩ := Module.hasGroup_iff_exists_tag.1 hgroup
      exact Or.inr ⟨m, hm, hname, tag, htag, hentry⟩
    · rename_i hplain
      obtain rfl := List.mem_singleton.1 hmem
      exact Or.inl ⟨hentry, by simpa using hplain⟩
  · rintro (⟨hentry, hplain⟩ | ⟨m, hm, rfl, tag, htag, hentry⟩)
    · exact ⟨name, hentry, by simp [hplain]⟩
    · have hgroup : m.hasGroup ("@" ++ tag) = true :=
        Module.hasGroup_iff_exists_tag.2 ⟨tag, htag, rfl⟩
      refine ⟨"@" ++ tag, hentry, ?_⟩
      rw [if_pos (startsLikeGroup_append tag)]
      exact List.mem_map.2 ⟨m, List.mem_filter.2 ⟨hm, hgroup⟩, rfl⟩

/-- Names that are not written like groups are written out already. -/
theorem writtenOut_of_names (h : ∀ name ∈ entries, startsLikeGroup name = false) :
    p.writtenOut entries = entries := by
  induction entries with
  | nil => rfl
  | cons entry rest ih =>
      rw [List.forall_mem_cons] at h
      rw [← List.singleton_append, writtenOut_append, ih h.2]
      simp [writtenOut, h.1]

/-- A list of modules and groups stands for names without repetitions: those of its entries that are
not written like groups and those of the members of its groups, in the order in which they come up
first when the list is written out. A list behind another one adds the names that are new. If no
module has a name that is written like a group, the names stand for themselves. -/
theorem expand_keeps_first (p : Project) (entries later : List String) :
    (p.expand entries).Nodup ∧
    (∀ name, name ∈ p.expand entries ↔
      (name ∈ entries ∧ startsLikeGroup name = false) ∨
        ∃ m ∈ p.catalog.modules, m.name = name ∧
          ∃ tag ∈ m.manifest.groups, "@" ++ tag ∈ entries) ∧
    ((p.expand entries).Pairwise fun a b =>
      (p.writtenOut entries).idxOf a < (p.writtenOut entries).idxOf b) ∧
    p.expand (entries ++ later) =
      p.expand entries ++ (p.expand later).filter (fun name => name ∉ p.expand entries) ∧
    ((∀ m ∈ p.catalog.modules, startsLikeGroup m.name = false) →
      p.expand (p.expand entries) = p.expand entries) := by
  simp only [expand_eq_eraseDups]
  refine ⟨nodup_eraseDups _, fun name => ?_, pairwise_idxOf_eraseDups _, ?_, fun hplain => ?_⟩
  · rw [List.mem_eraseDups, mem_writtenOut_iff]
  · rw [writtenOut_append, eraseDups_append_eq_filter]
  · have hnames : ∀ name ∈ (p.writtenOut entries).eraseDups, startsLikeGroup name = false := by
      intro name hname
      rcases mem_writtenOut_iff.1 (List.mem_eraseDups.1 hname) with ⟨-, hname⟩ | ⟨m, hm, rfl, -⟩
      · exact hname
      · exact hplain m hm
    rw [writtenOut_of_names hnames, eraseDups_of_nodup (nodup_eraseDups _)]

end Project

namespace Grouping

/-- Two groups with a common member, which is listed too, and a name of no module. What they stand
for stands for itself, and a list behind it adds one name. -/
theorem expand_overlapping :
    (∀ m ∈ project.catalog.modules, startsLikeGroup m.name = false) ∧
      project.expand ["Net", "@ui", "Ghost", "@ui"] = ["Net", "Page", "Ghost"] ∧
      project.expand ["Net", "Page", "Ghost"] = ["Net", "Page", "Ghost"] ∧
      project.expand (["Net", "@ui", "Ghost", "@ui"] ++ ["@core", "Page"]) =
        ["Net", "Page", "Ghost", "Log"] := by
  have hplain : ∀ m ∈ project.catalog.modules, startsLikeGroup m.name = false := by decide
  have hexpand : project.expand ["Net", "@ui", "Ghost", "@ui"] = ["Net", "Page", "Ghost"] := by
    decide
  obtain ⟨-, -, -, happend, hagain⟩ :=
    project.expand_keeps_first ["Net", "@ui", "Ghost", "@ui"] ["@core", "Page"]
  refine ⟨hplain, hexpand, ?_, ?_⟩
  · rw [← hexpand]
    exact hagain hplain
  · rw [happend, hexpand]
    decide

end Grouping

end Polybuild
