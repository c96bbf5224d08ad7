import Mathlib.Data.List.Perm.Basic
import Polybuild.Build.Compile
import Polybuild.Proofs.Requirements.Graph

/-!
# Building everything

A build of all modules fails only where the requirements of the catalog have a cycle, and then it
has not touched the disk. Otherwise it compiles every module once, each behind those that it
requires, and its report is that of all modules, one after the other.
-/

namespace Polybuild

open Relation (TransGen)

namespace Requirements

variable {g : Requirements} {wanted names list : List String}

/-- No module of a grounded list is reached from one behind it. -/
theorem Grounded.pairwise (h : g.Grounded list) (hnodup : list.Nodup) :
    list.Pairwise fun x y => ¬TransGen g.Requires y x := by
  induction list with
  | nil => exact .nil
  | cons x rest ih =>
      rw [List.nodup_cons] at hnodup
      refine List.pairwise_cons.2 ⟨fun y hy hyx => ?_, ih h.2 hnodup.2⟩
      obtain ⟨before, after, rfl⟩ := List.append_of_mem hy
      have hbehind := (Grounded.of_append h.2).mem_of_reaches hyx
      exact hnodup.1 (List.mem_append_right _ (List.mem_cons_of_mem _ hbehind))

/-- An order lists the known ones of the wanted modules, each once, and none of them reaches one
that stands behind it. -/
theorem perm_of_order (h : g.order wanted = .ok names) (hwanted : wanted.Nodup)
    (hknown : ∀ x ∈ wanted, g.knows x = true) :
    names.Perm wanted ∧ names.Pairwise fun x y => ¬TransGen g.Requires x y := by
  obtain ⟨q, hwalked, rfl⟩ := exists_walked_of_order h
  have hdistinct := List.nodup_reverse.2 hwalked.sound.distinct
  constructor
  · rw [List.perm_ext_iff_of_nodup (hdistinct.filter _) hwanted]
    intro x
    rw [List.mem_filter, List.mem_reverse, List.contains_iff_mem]
    exact ⟨And.right, fun hx => ⟨hwalked.reached x hx (hknown x hx), hx⟩⟩
  · apply List.Pairwise.filter
    rw [List.pairwise_reverse]
    exact hwalked.sound.grounded.pairwise hwalked.sound.distinct

end Requirements

namespace Catalog

variable {c : Catalog} {names : List String}

/-- A list of all names is one of all modules. -/
theorem exists_modules_of_perm (h : names.Perm c.names) :
    ∃ ms : List Module, ms.Perm c.modules ∧ names = ms.map (·.name) := by
  have hall : List.Forall₂ (fun name m => name = m.name) c.names c.modules := by
    rw [Catalog.names, List.forall₂_map_left_iff, List.forall₂_same]
    exact fun _ _ => rfl
  obtain ⟨ms, hnames, hperm⟩ := List.perm_comp_forall₂ h hall
  refine ⟨ms, hperm, ?_⟩
  rw [← List.forall₂_eq_eq_eq, List.forall₂_map_right_iff]
  exact hnames

end Catalog

namespace Compiler

variable {α : Type} {c : Compiler α} {d d' : Disk} {ms : List Module}

/-- Modules were compiled one after the other, each with its report. -/
inductive CompiledInTurn (c : Compiler α) :
    Disk → List Module → List BuildReport → Disk → Prop where
  | nil (d : Disk) : c.CompiledInTurn d [] [] d
  | cons {d below d' : Disk} {m : Module} {ms : List Module} {report : BuildReport}
      {reports : List BuildReport} (first : c.compileModule d m.name = (.ok report, below))
      (rest : c.CompiledInTurn below ms reports d') :
      c.CompiledInTurn d (m :: ms) (report :: reports) d'

theorem compileModule_name {m : Module} (hm : m ∈ c.project.catalog.modules) (d : Disk) :
    c.compileModule d m.name = (.ok (c.compileSources d m).1, (c.compileSources d m).2) := by
  rw [compileModule, Catalog.get?_name hm]

/-- Modules of the project are compiled without an error. -/
theorem exists_compiledInTurn (hms : ∀ m ∈ ms, m ∈ c.project.catalog.modules) (d : Disk)
    (report : BuildReport) :
    ∃ reports last d', c.compileModules d report (ms.map (·.name)) = (.ok last, d') ∧
      c.CompiledInTurn d ms reports d' ∧
      last.files = report.files ++ reports.flatMap (·.files) := by
  induction ms generalizing d report with
  | nil => exact ⟨[], report, d, rfl, .nil d, by simp⟩
  | cons m rest ih =>
      rw [List.forall_mem_cons] at hms
      have hfirst := compileModule_name hms.1 d
      obtain ⟨reports, last, d', hrest, hturn, hfiles⟩ :=
        ih hms.2 (c.compileSources d m).2 (report.merge (c.compileSources d m).1)
      refine ⟨(c.compileSources d m).1 :: reports, last, d', ?_, .cons hfirst hturn, ?_⟩
      · simp only [List.map_cons, compileModules, hfirst, hrest]
      · simp [hfiles, BuildReport.merge]

/-- The requirements of the modules have a cycle. -/
def Cyclic (c : Compiler α) : Prop :=
  ∃ m, TransGen c.project.catalog.Asks m m

theorem knows_of_mem_names {name : String} (h : name ∈ c.project.catalog.names) :
    c.project.requirements.knows name = true := by
  obtain ⟨m, hm, rfl⟩ := List.mem_map.1 h
  simp [Requirements.knows, Project.get?_requirements, Catalog.get?_name hm]

theorem cyclic_of_order {wanted : List String} {cycle : Cycle}
    (h : c.project.order wanted = .error cycle) : c.Cyclic := by
  obtain ⟨hsimple, first, hfirst, -⟩ := Requirements.simple_of_order_eq_error h
  have hself := Requirements.reaches_self_of_simple hsimple hfirst
  obtain ⟨m, n, hway, hm, hn⟩ := Project.transGen_requires_iff.1 hself
  obtain ⟨hmem, hmem'⟩ := Project.mem_of_transGen hway
  obtain rfl := List.inj_on_of_nodup_map c.project.catalog.distinct hmem' hmem (hn.trans hm.symm)
  exact ⟨n, hway⟩

theorem not_cyclic_of_order {names : List String}
    (h : c.project.order c.project.catalog.names = .ok names) : ¬c.Cyclic := by
  rintro ⟨m, hself⟩
  obtain ⟨hm, -⟩ := Project.mem_of_transGen hself
  have hname : m.name ∈ c.project.catalog.names := List.mem_map_of_mem hm
  apply Requirements.not_reaches_self_of_order h ⟨m.name, hname, knows_of_mem_names hname, .refl⟩
  exact (Project.transGen_requires_name_iff hm hm).2 hself

/-- The modules of the project are ordered, unless their requirements have a cycle. -/
theorem order_names_cases (c : Compiler α) :
    (c.Cyclic ∧ ∃ cycle, c.project.order c.project.catalog.names = .error cycle) ∨
      (¬c.Cyclic ∧ ∃ ms : List Module,
        c.project.order c.project.catalog.names = .ok (ms.map (·.name)) ∧
        ms.Perm c.project.catalog.modules ∧
        ms.Pairwise fun m n => ¬TransGen c.project.catalog.Asks m n) := by
  cases horder : c.project.order c.project.catalog.names with
  | error cycle => exact Or.inl ⟨cyclic_of_order horder, cycle, rfl⟩
  | ok names =>
      obtain ⟨hperm, hpairwise⟩ := Requirements.perm_of_order horder c.project.catalog.distinct
        fun name hname => knows_of_mem_names hname
      obtain ⟨ms, hms, rfl⟩ := Catalog.exists_modules_of_perm hperm
      refine Or.inr ⟨not_cyclic_of_order horder, ms, rfl, hms, ?_⟩
      rw [List.pairwise_map] at hpairwise
      refine hpairwise.imp_of_mem fun hm hn hnot hway => hnot ?_
      exact (Project.transGen_requires_name_iff (hms.subset hm) (hms.subset hn)).2 hway

/-- A build of all modules fails only for a cycle of their requirements, and then nothing has
changed. Otherwise every module is compiled once, behind all that it requires, and the entries of
the report are those of the modules in this order. -/
theorem compileAll_each_once (c : Compiler α) (d : Disk) :
    (c.Cyclic ∧ ∃ cycle, c.compileAll d = (.error (.cycle cycle), d)) ∨
      (¬c.Cyclic ∧ ∃ ms reports report d', c.compileAll d = (.ok report, d') ∧
        ms.Perm c.project.catalog.modules ∧
        (ms.Pairwise fun m n => ¬TransGen c.project.catalog.Asks m n) ∧
        c.CompiledInTurn d ms reports d' ∧ report.files = reports.flatMap (·.files)) := by
  rcases order_names_cases c with ⟨hcyclic, cycle, horder⟩ | ⟨hacyclic, ms, horder, hperm, hbehind⟩
  · refine Or.inl ⟨hcyclic, cycle, ?_⟩
    simp only [compileAll, horder]
  · obtain ⟨reports, report, d', hcompiled, hturn, hfiles⟩ :=
      exists_compiledInTurn (fun m hm => hperm.subset hm) d .empty
    refine Or.inr ⟨hacyclic, ms, reports, report, d', ?_, hperm, hbehind, hturn, ?_⟩
    · simp only [compileAll, horder, hcompiled]
    · simpa [BuildReport.empty] using hfiles

end Compiler

end Polybuild
