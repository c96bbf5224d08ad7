import Polybuild.Proofs.Build.Destinations
import Polybuild.Proofs.Module.Sources

/-!
# Compiling a file again

A request depends on the file that it leads to and not on how its path is spelled, and it writes the
same outputs every time. Once it was met, it can only fail later because the file cannot be read or
parsed any more.
-/

namespace Polybuild

namespace Disk

variable {d : Disk} {writes : List (Path × String)}

/-- Where all files were placed once, all can be written again. -/
theorem exists_writeAll_of_placed (h : ∀ write ∈ writes, Placed d write.1) :
    ∃ d', d.writeAll writes = (none, d') := by
  induction writes generalizing d with
  | nil => exact ⟨d, rfl⟩
  | cons write rest ih =>
      obtain ⟨file, text⟩ := write
      rw [List.forall_mem_cons] at h
      obtain ⟨below, hplace, hwrote⟩ := exists_place_of_placed h.1 text
      obtain ⟨d', hrest⟩ := ih fun other hother => hwrote.extension.placed (h.2 other hother)
      exact ⟨d', by simp only [writeAll, hplace, hrest]⟩

end Disk

namespace Compiler

variable {α : Type} {c : Compiler α} {d d' later : Disk} {m : Module} {relative spelled : String}
  {lang : Option String} {file : Path} {outputs : List Path}

/-- Two spellings of one file make one request. -/
theorem compile_congr (h : m.sourceFile? spelled = m.sourceFile? relative) (d : Disk)
    (lang : Option String) : c.compile d m spelled lang = c.compile d m relative lang := by
  have hplan : c.plan d m spelled lang = c.plan d m relative lang := by
    simp only [plan, h]
  simp only [compile, hplan]

/-- A request that was met has written all that was planned. -/
theorem exists_writeAll_of_compile
    (h : c.compile d m relative lang = (.ok (.compiled outputs), d')) :
    ∃ writes, c.plan d m relative lang = .write writes ∧ d.writeAll writes = (none, d') ∧
      outputs = writes.map (·.1) := by
  unfold compile at h
  split at h
  · simp at h
  · simp at h
  · rename_i writes hplan
    split at h
    · simp at h
    · rename_i hwritten
      obtain ⟨houtputs, rfl⟩ := Prod.mk.inj h
      obtain rfl := Outcome.compiled.inj (Except.ok.inj houtputs)
      exact ⟨writes, hplan, hwritten, rfl⟩

/-- The outputs of a request are its destinations. -/
theorem outputs_eq_destinations
    (h : c.compile d m relative lang = (.ok (.compiled outputs), d')) :
    outputs = c.destinations m relative (c.languages lang) := by
  obtain ⟨writes, hplan, -, rfl⟩ := exists_writeAll_of_compile h
  exact (destinations_of_plan hplan).1

/-- What was written for a plain path can be rendered as long as the file can be read and
parsed. -/
theorem planFile_again {plain : String} {writes : List (Path × String)}
    (h : c.planFile d m file plain lang = .write writes) (hfile : later.isFile file = true) :
    (∃ again, c.planFile later m file plain lang = .write again ∧
        again.map (·.1) = writes.map (·.1)) ∨
      ∃ error, c.planFile later m file plain lang = .fail error := by
  obtain ⟨hne, haccepts, -, kind, text, content, hkind, -, hcontent, rfl⟩ := planFile_eq_write h
  have hdest := map_outputs hkind hcontent (c.languages lang)
  cases hread : later.readText file with
  | error fault =>
      exact Or.inr ⟨.read file fault, by simp [planFile, haccepts, hkind, hfile, hread]⟩
  | ok text' =>
      cases hcontent' : c.content m file kind text' with
      | error error =>
          exact Or.inr ⟨error, by simp [planFile, haccepts, hkind, hfile, hread, hcontent']⟩
      | ok content' =>
          have hdest' := map_outputs hkind hcontent' (c.languages lang)
          refine Or.inl ⟨c.outputs m plain content' (c.languages lang), ?_, hdest'.trans hdest.symm⟩
          cases hagain : c.outputs m plain content' (c.languages lang) with
          | nil =>
              have hempty : (c.outputs m plain content (c.languages lang)).map (·.1) = [] := by
                rw [hdest, ← hdest', hagain]
                rfl
              exact absurd (List.map_eq_nil_iff.1 hempty) hne
          | cons write rest =>
              simp [planFile, haccepts, hkind, hfile, hread, hcontent', hagain]

theorem plan_eq_planFile {plain : String} (hsource : m.sourceFile? relative = some file)
    (hplain : m.relativePath? file = some plain) (d : Disk) :
    c.plan d m relative lang = c.planFile d m file plain lang := by
  obtain ⟨root, hroot, -⟩ := Option.bind_eq_some_iff.1 hsource
  simp [plan, hroot, hsource, hplain]

/-- A request that was met once is met again with the same outputs, unless the file cannot be read
or parsed any more. -/
theorem compile_again (h : c.compile d m relative lang = (.ok (.compiled outputs), d'))
    (hlater : Disk.Extends d' later) :
    (∃ below, c.compile later m relative lang = (.ok (.compiled outputs), below)) ∨
      ∃ error, c.compile later m relative lang = (.error error, later) ∧
        ∃ file, (∃ fault, error = .read file fault) ∨
          ∃ refusal, error = .parse m.name file refusal := by
  have hext := (placings_of_compile h).extension.trans hlater
  obtain ⟨writes, hplan, hwritten, rfl⟩ := exists_writeAll_of_compile h
  obtain ⟨-, hplaced⟩ := Disk.writeAll_eq_none hwritten
  obtain ⟨file, hsource, hfile⟩ := (destinations_of_plan hplan).2
  obtain ⟨plain, hplain, -⟩ := Module.exists_relativePath?_of_sourceFile? hsource
  rw [plan_eq_planFile hsource hplain] at hplan
  have hplanLater : c.plan later m relative lang = c.planFile later m file plain lang :=
    plan_eq_planFile hsource hplain later
  rcases planFile_again hplan (hext.isFile hfile) with ⟨again, hagain, hsame⟩ | ⟨error, hfail⟩
  · have hthere : ∀ write ∈ again, later.Placed write.1 := by
      intro write hwrite
      have hmem : write.1 ∈ writes.map (·.1) := hsame ▸ List.mem_map_of_mem hwrite
      obtain ⟨first, hfirst, hpath⟩ := List.mem_map.1 hmem
      rw [← hpath]
      exact hlater.placed (hplaced first hfirst)
    obtain ⟨below, hbelow⟩ := Disk.exists_writeAll_of_placed hthere
    refine Or.inl ⟨below, ?_⟩
    simp only [compile, hplanLater, hagain, hbelow, hsame]
  · refine Or.inr ⟨error, ?_, plan_eq_fail (hplanLater.trans hfail)⟩
    simp only [compile, hplanLater, hfail]

end Compiler

end Polybuild
