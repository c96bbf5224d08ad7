import Polybuild.Proofs.Catalog.Owner
import Polybuild.Proofs.Requirements.Cycles
import Polybuild.Project.Basic

/-!
# The requirements of a catalog

`Catalog.Asks` says which modules of a catalog require each other, in terms of their manifests. The
requirements that a project orders are this relation, told by the names of the modules: names are
distinct, so each way from module to module is a way from name to name, and back.
-/

namespace Polybuild

open Relation (TransGen)

/-- A module asks for another one, by its name or by a group. A group does not refer to the module
that names it. -/
def Module.AsksFor (m n : Module) : Prop :=
  ∃ entry ∈ m.manifest.require,
    Reference.ofText entry = .module n.name ∨
      ∃ tag, Reference.ofText entry = .group tag ∧ tag ∈ n.manifest.groups ∧ n.name ≠ m.name

/-- A module of a catalog asks for another one of it. -/
def Catalog.Asks (c : Catalog) (m n : Module) : Prop :=
  m ∈ c.modules ∧ n ∈ c.modules ∧ m.AsksFor n

namespace Requirements

variable {ms modules : List Module} {m n : Module} {name : String} {names wanted : List String}
  {g : Requirements}

theorem mem_foldl_pushNew : name ∈ names.foldl pushNew wanted ↔ name ∈ wanted ∨ name ∈ names := by
  induction names generalizing wanted with
  | nil => simp
  | cons first rest ih =>
      have hpush : ∀ x, x ∈ pushNew wanted first ↔ x ∈ wanted ∨ x = first := by
        intro x
        unfold pushNew
        split
        · rename_i hcontains
          constructor
          · exact Or.inl
          · rintro (hx | rfl)
            · exact hx
            · simpa using hcontains
        · simp
      rw [List.foldl_cons, ih, hpush, List.mem_cons, or_assoc]

theorem get?_foldl_insert (f : Module → List String) (name : String) :
    (ms.foldl (fun g m => g.insert m.name (f m)) g).edges.get? name =
      ((ms.reverse.find? fun m => m.name == name).map f).or (g.edges.get? name) := by
  induction ms generalizing g with
  | nil => simp
  | cons m rest ih =>
      rw [List.foldl_cons, ih, List.reverse_cons, List.find?_append]
      cases rest.reverse.find? fun m => m.name == name with
      | some n => simp
      | none =>
          by_cases hname : m.name = name
          · simp [insert, Keyed.get?_insert, hname]
          · simp [insert, Keyed.get?_insert, hname, Ne.symm hname]

end Requirements

namespace Project

open Requirements (required)

variable {p : Project} {m n : Module} {a b : String}

/-- The requirements of a project list what each of its modules requires. -/
theorem get?_requirements (p : Project) (name : String) :
    p.requirements.edges.get? name =
      (p.catalog.get? name).map (required p.catalog.modules) := by
  have hempty : Requirements.empty.edges.get? name = none := rfl
  rw [requirements, Requirements.ofModules, Requirements.get?_foldl_insert, hempty, Option.or_none]
  congr 1
  cases hfind : p.catalog.modules.reverse.find? fun m => m.name == name with
  | some m =>
      have hm := List.mem_reverse.1 (List.mem_of_find?_eq_some hfind)
      obtain rfl : m.name = name := by simpa using List.find?_some hfind
      exact (Catalog.get?_name hm).symm
  | none =>
      have hno : ∀ m ∈ p.catalog.modules, ¬(m.name == name) = true := by
        simpa using List.find?_eq_none.1 hfind
      rw [Catalog.get?_eq_find?, List.find?_eq_none.2 hno]

theorem hasGroup_iff {entry : String} :
    m.hasGroup entry = true ↔
      ∃ tag, Reference.ofText entry = .group tag ∧ tag ∈ m.manifest.groups := by
  unfold Module.hasGroup Reference.groupOf?
  cases Reference.ofText entry <;> simp

theorem mem_targets {entry : String} (hn : n ∈ p.catalog.modules) :
    n.name ∈ Requirements.targets p.catalog.modules m entry ↔
      Reference.ofText entry = .module n.name ∨
        ∃ tag, Reference.ofText entry = .group tag ∧ tag ∈ n.manifest.groups ∧
          n.name ≠ m.name := by
  unfold Requirements.targets
  split
  · rename_i tag hgroup
    rw [List.mem_map]
    constructor
    · rintro ⟨o, ho, hname⟩
      obtain ⟨hmem, hkeep⟩ := List.mem_filter.1 ho
      obtain rfl := List.inj_on_of_nodup_map p.catalog.distinct hmem hn hname
      rw [Bool.and_eq_true, hasGroup_iff] at hkeep
      obtain ⟨⟨tag, htag, hlisted⟩, hother⟩ := hkeep
      exact Or.inr ⟨tag, htag, hlisted, by simpa using hother⟩
    · rintro (hmodule | ⟨tag, htag, hlisted, hother⟩)
      · simp [hgroup] at hmodule
      · refine ⟨n, List.mem_filter.2 ⟨hn, ?_⟩, rfl⟩
        rw [Bool.and_eq_true, hasGroup_iff]
        exact ⟨⟨tag, htag, hlisted⟩, by simpa using hother⟩
  · rename_i name hmodule
    simp [hmodule, eq_comm]

/-- An edge between names is a requirement between the modules of these names. -/
theorem requires_iff :
    p.requirements.Requires a b ↔ ∃ m n, p.catalog.Asks m n ∧ m.name = a ∧ n.name = b := by
  have hrequired : ∀ {m n}, n ∈ p.catalog.modules →
      (n.name ∈ required p.catalog.modules m ↔ m.AsksFor n) := by
    intro m n hn
    rw [required, Requirements.mem_foldl_pushNew, List.mem_flatMap, Module.AsksFor]
    simp only [List.not_mem_nil, false_or, mem_targets hn]
  unfold Requirements.Requires Requirements.of Requirements.knows
  rw [get?_requirements, get?_requirements]
  constructor
  · rintro ⟨hmem, hknown⟩
    obtain ⟨n, hfound⟩ := Option.isSome_iff_exists.1 (by simpa using hknown)
    obtain ⟨hn, rfl⟩ := Catalog.get?_eq_some_iff.1 hfound
    cases hm : p.catalog.get? a with
    | none => simp [hm] at hmem
    | some m =>
        obtain ⟨hm', rfl⟩ := Catalog.get?_eq_some_iff.1 hm
        exact ⟨m, n, ⟨hm', hn, (hrequired hn).1 (by simpa [hm] using hmem)⟩, rfl, rfl⟩
  · rintro ⟨m, n, ⟨hm, hn, hasks⟩, rfl, rfl⟩
    rw [Catalog.get?_name hm, Catalog.get?_name hn]
    exact ⟨by simpa using (hrequired hn).2 hasks, rfl⟩

theorem mem_of_transGen (h : TransGen p.catalog.Asks m n) :
    m ∈ p.catalog.modules ∧ n ∈ p.catalog.modules := by
  induction h with
  | single hstep => exact ⟨hstep.1, hstep.2.1⟩
  | tail _ hstep ih => exact ⟨ih.1, hstep.2.1⟩

/-- A way from name to name is one from module to module. -/
theorem transGen_requires_iff :
    TransGen p.requirements.Requires a b ↔
      ∃ m n, TransGen p.catalog.Asks m n ∧ m.name = a ∧ n.name = b := by
  constructor
  · intro h
    induction h with
    | single hstep =>
        obtain ⟨m, n, hasks, hm, hn⟩ := requires_iff.1 hstep
        exact ⟨m, n, .single hasks, hm, hn⟩
    | tail _ hstep ih =>
        obtain ⟨m, n, hway, hm, rfl⟩ := ih
        obtain ⟨n', o, hasks, hname, ho⟩ := requires_iff.1 hstep
        obtain rfl :=
          List.inj_on_of_nodup_map p.catalog.distinct hasks.1 (mem_of_transGen hway).2 hname
        exact ⟨m, o, hway.tail hasks, hm, ho⟩
  · rintro ⟨m, n, hway, rfl, rfl⟩
    exact hway.lift (·.name) fun _ _ hasks => requires_iff.2 ⟨_, _, hasks, rfl, rfl⟩

theorem transGen_requires_name_iff (hm : m ∈ p.catalog.modules) (hn : n ∈ p.catalog.modules) :
    TransGen p.requirements.Requires m.name n.name ↔ TransGen p.catalog.Asks m n := by
  rw [transGen_requires_iff]
  constructor
  · rintro ⟨m', n', hway, hmname, hnname⟩
    obtain ⟨hm', hn'⟩ := mem_of_transGen hway
    obtain rfl := List.inj_on_of_nodup_map p.catalog.distinct hm' hm hmname
    obtain rfl := List.inj_on_of_nodup_map p.catalog.distinct hn' hn hnname
    exact hway
  · intro hway
    exact ⟨m, n, hway, rfl, rfl⟩

end Project

end Polybuild
